import CInspect.Text.Packed
/-!
The compiler's own headers: standard definitions, variable arguments, booleans, limits, floating-point characteristics and the alternative spellings of operators.

Each entry is the full path of a header and its text, reduced to the
declarations and macros that programs can see.
-/

namespace CInspect.Includes

/-- The compiler's own headers. -/
def compilerHeaders : List (String × String) := Text.unpackEntries <|
  String.join [
    "/usr/lib/gcc/x86_64-linux-gnu/12/include/mm_malloc.h`~7!!#ifndef _MM_MALLOC_H_INCLUDED`#define~7!B`#~'%8 <stdlib.h>~-!|_cplusplus`extern int posix_memalign (voi",
    "d **, size_t~(!+);`#else~(!b\"C\"~N!f throw (~%!ondif``static __inline ~&!b`_~)'P (~&!d __size~(!s __~%%<ment)`@` ~'!a__ptr;`  if (~+!H == 1)`    return ~(%.~&%",
    "')~7!X2 ||~&%Sof~(&U) == 8 && ~/!Q4)~&%1~-!: ~/!d~(%8~0'_&~%&6,~,!d,~'&t~%%A0~-&9~)&g~%(g~+!<NULL;`$~6(-~%(+free~(%a~%!n~&'k~&!:~&!4~%!h~'(z\x00~J,ccpuid~D,]CPU",
    "ID~5,X~1!=`~)!?bit_RAOINT\t(1 << 3)~-!?AVXVNNI~'!A4~1!A512BF16~'!D5~.!DCMPCCXADD~'!C7~/!fMX_FP~)!d21~.!CHRESE~(%j22~1%KIFMA~(!B3)~/&PSSE3~'!A0~.!aPCLMUL~'!?~/%C",
    "LZC~)'0~/&HS~+!y9~.!>FMA\t~(!w2~1')XCHG16B~(!E~/(3SSE4_1~(!A9~3!A2~(&c~/&DMOVBE~7'FPOP~*&E2~0)SES~(&*2~/&dXSAV~)!|6~.!?OS~-!B~0)LVX~)%!8~/'G16C~(!>~/&_RDRN~(*I3",
    "0~0)D~'+TINT8 ~8+XNECONVERT ~8+ZXCHG8~((S~/%nPREFETCH~(,g1~/%0CMOV~(!>~/%)MM~*&p~/(4F~-'Q4~1)T~8(RSSE2~+(Q~/'5LAHF_LM~6,YABM\t~8,;E4a~'!>~/)RPRFCHW~6'BXOP ~(!!~",
    "''(~0-]WP ~7'DFMA4~/!d~/%KTBM~/%.~001MWAITX~-!F9~0*MMMXEX~80VL~)'9~0+N3DNOWP~++O~1!A\t(1u~%!A1~0%CCLZERO~6(YWBNOINVD~*0Z~/!dFSGSBASE~6!fSGX~(&i~.!<BMI~65,HLE~95",
    "(2~6*:BMI2~6)uRT~(+3~0)m~&5zF\t~6)K~&!BDQ~(!C~/0MRDSEE~(':1~/%DADX~732~&%%~,5v~/%hCLFLUSHOP~82vCLWB~7.c~&%,PF~72y~&!CER~:2z512CD~73&SHA~8+Q~'9sW~7+S~&!CVL~:+V~(",
    "2;WT1\t~(-G~6!l~**c~/'cPKU~6+!OSPK~7+&WAITPKG~6+)~*%A2~61GSHSTK~6<FGF~)=K~/'qVAES~6:Z~'%?~*>0~0,2V~&<%Q~*+n~5'KBITALG~7;P~'%4~&:3~*!p~/'?RDPID~71bMOVDIRI~7*s~&!",
    "B64B~7*tENQCMD~7*vCLDEMOTE~77.KL\t~9?b~&&T4VNNIW~61M~'!FFMAPS ~8Cb~%'D2INTERSECT~6)C~'0nP16~*5S~/!rIBT~7?%UINTR~6;oPCONFIG~712SERIALIZE~7)3TSXLDTRK~:8/AMX_BF~%&",
    "1 ~7DxMX_TILE~+!F4~2!F~%>T~*!F5~2!FCOMPLE~(618~0),~%=6~*2p0~3BLC~6/p~%!?S~*/s~01&TWRIT~+/x~0*RESKLE\t( 1<<0 ~/0?IDEKL~&!?2 ~%!b~)!Dsignature_AMD_ebx\t0x68747541",
    "~8!Icx\t0x444d4163~8!Id~%!q9746e65~4%?CENTAUR~'%D~&!L43~<!M~%%H736c7561~<!M~%%L4872~%!M~4!NYRIX~(&m97279~6%J~&!K~%%H64616574~:!Kd~'%re4978~4%FINTEL~(&o5~%&o7~:!",
    "K~&%Fc65746e~:!K~&&k9656e69~4%FTM1~(&ie617254~8!I~%%B555043~5(3~%!I~&&e4656d73~6%?2~C&c~%!I~%%?3638784d~8!I~%%?54~:&]NSC~(&]46f~7%?~%!I~&,;3534e20~8!I~&&]96220~",
    "6,;NEXGEN~'%C4778654e~;!L~&)He657669~;!L~&%I24~9-dRISE~(&i5736952~9!Jc~F!Jd~-!J~3!KSIS~'%B20536953~8!Ic~E!Id~-!I~3!JUM~()L20434d55~8!Ic~E!Id~-!I~3!JVIA~*%?14956",
    "~8!Ic~E!Id~-!I~4!JORTE~(1Y74726f~6!u~'!L~',56f53~5,5~(!Ld~*.%~6*kSHANGHAI~)5u5320~5!z~*!N~'&r2069~50C~*!N~&*w8676e~%4T~)i2~&b?__~,7Z__~%b9(level, a, b, c, d)\t\t",
    "\t\t\t\\`  do @~%!0~(!4~(f_builtin_constant_p ~&!o) &&~)!.!= 1)~)!a~%fQsm__ __volatile__ (\"~%%W\\n\\t\"~'%7\t\t\t    : \"=a\" (a), \"=b\" (b~%!-c\" (c~%!-d\" (",
    "d)~-!V0\"~(%O);~*&1else~.&D~|%a~9%a, \"1\" (0), \"2~%!,);~&%]$ while (0)~'mL~L(y~L&A~O&<~.'v~)nI~/%n_count~(%t~%!0~1%|~|%z~3%z~'(.~%%W))~*jf~0lLunsigned int`__g",
    "et~'&Jmax (~,!B __ext,~-!V *__sig~&lz~0!Qax, __eb~&!*c~&!*dx;~6.l#if __GNUC__ >= 3~+'S(\"pushf@l|d$~%'K`\t   ~7!8op@l$\\t%0~+!8mov~%!8@%0, %1|%1, %0~,![xor~'!F2",
    ", %0|~%!M2~0%=~2%)pop~]%k~3!e: \"=&r\" (~%'m~%)h~(!2bx)~(!Gi\" (0x00200000)~)w2`~2'al~0%m~-!4opl~2'T~%!6, %1~.'Il\\t~&'F~/!yl~3&R~Q%F~/!X~['-~&.|~&5,!(~&!g ~^~&",
    "+d) & ~,!T~,v%0~*!d~%'o~%-5~%%Ax~%vy~8,S);~(%=~'-:   ~'-G =~&!U~%!F~)wReax~%vM~5.n~/.e~1.aleaf,~%'& ~1.h~%%u~1!8bx~9!Tc~4!Tdx~6/Vxt~%&Kleaf~%'q8~%'o00;~2!Pmax~%",
    "1h~%!U~/11~''|0~,'b~*!T= 0 ||~,!j<~'%D~0)+~.(|~%'>~)'+~'&v~)&c~'&S;~*(Z1~'(V~?(S~&5f~6(Y~0&tsub~'(t\t~O(s\t~|(r~|(r~M(r~('k~('[~*'N~R)+^6%(w~&%6ex (~&&[~&%Finfo",
    "[4],~-).~-)%~&'s~C%y~-!y0]~/!41]~%)>~-!72~0!I3]^X%*Lvarargs.h~*9rVARARGS_H~*=o~*!6`#error \"GCC no longer implements <~)!z>.\"~)!SRevise your code to us^&%3Karg",
    "~&!Q~S&:stdatomi^;%5K~+<MSTDATOMIC~,&X~,!8`typedef enum`  @~%+Mmemory_order_relaxed~%,b~'!]RELAXED,~2!Qconsume~,!QCONSUME~3!Qacquir~-!QACQUIR~4!Qrelease~/%WEAS~",
    "7%)_r~'.n~*%)_REL~3!Qseq_cst~,!QSEQ_CST~%G6~,!P;`~*'Z_A~%(] _Bool ~&(l_bool;~1!Gchar~(!Fchar~2!F~'1-~,!Ms~6!N~)1Z~,!Pu~7%%hort~)!whort~;!w~-!Qu~7!Rin~)!Gin~<!u~",
    "+!Mu~5!Nlong~(!Flong~;!s~,!Ou~6!P~%!G~-!z~E!|~.%(~&!V#if~&G?CHAR8_TYPE__~2)x~-!C~,)]8_t~)?:~6!Z16~3![16_~3'M~&!U32~3!U32~6!UWCHAR~/!Twchar~6!SINT_LEAST~0&Hint_l",
    "east8~6!_U~9!au~A!b~)!a~1'1~)!a~8'6U~:!cu~B!d~)!c~1(!~)!b~8()U~:!cu~B!d~)!c64~8%H64~A%H~1!cu~B!dINT_F~7)[f~?)ZF~8)Yf~>)XF~8)Wf~A)VF~9)Uf~?)TF~8)Sf~A)RF~9)Qf~?)P",
    "F~8)Of~A)NF~9)Mf~>)LPTR~2%?ptr~:%;~2!Vu~<!WSIZE~/!T^&%L?~4!QPTRDIFF~/!Tptrdiff~9&?MAX~2&?max~:&?~2!Vu~*!W~&XH!(~&>zd __STDC_VERSION__^&%Lz~/!7> 201710L~*zz~'<:V",
    "AR_INIT(VALUE)\t~'!+~*Qy~(!T~)&7it(PTR, VAL)^)%;:~2!!\\` ~)(%tore_explicit ~)!f,~1AS)~*%?kill_dependency(Y~(go~%J_ension__~)d&(@~,fT__auto_type __~/!r_tmp = (Y)",
    ";~)!S~3!G;~'!u$)`^(%T/void~(&Qthread_fence (~,A%);~0'_~,!P(MO)\t__~5!mMO)~4%:~%lll~G%:~,!P~.%:~-!m~&%;~0)]s_lock_free(OBJ) ~)!d~,!>^*%TO*~%!J), ~&!+`~0+4BOOL_LO",
    "CK_FREE\t\t__GCC_~5!A~0!b~%;n~8!b~.!A~*>]~/!G8_T~>%0~-!E\t~A!g~&-B~3!n16~>!o~.!D~4!i32~>!i~.!D~0!i~'?H~8!h~1!C~0!gSHORT~9(A~/!B~0!d~%;F~7!b~-!?~0!_LONG~9!a~.!A~",
    "1!b~>!c~>!dPOINTER~8'V~1!C~/Ps~/.K~-2j~+2iMO~+p*~02<~/2?~72C~-%2ptr =~%3v~,ue_~%!Pof__ ((void)0~%Xd~0!b)~0!v~'3:VAL~+3<~,!F (~2!m, &~2!n,~%1*~'!m$)~6'J~*6q~(&7~",
    "K6W~'QM)~2(Qload~/(P~'(K~h(L~%%-~V(K~(!a)~/!t~+7< ~.!>~+(B~(!d~,(A~(!e~-(? ~6%-\t~+8K~3'X~%&G ~5'm~'(R~D(Mexchang~|-(_~0%5~V(Y~,!e)~3%!val~2-1~a!y~&(U~/(r~(!B~+",
    ")e~,!o~,)i~,%n,~%|t~'A>&~5%;~)*8~9%D~+*>~7*=~(!N~+Bu~./'~1)m~P/*compa~%/m~'!ostrong~4*hDES, SUC, FAIL) ~g*q~1%N~/*y~F)z~4!l)~;%3tmp ^(%.Z= (DES);~1&'~6!c~+*Q~4%",
    "F,~&,2,^*%.Y~-*I~4%Z, 0~.!S(SUC), (~%(7~*.*~3*H~7):~.)1~%*]~.IB~A)v ~0)w~0*v, ~%&,~%%'~3+:~A%zweak~|+7~|+7~|+7~|+7~/+71~m+7weak~/+5~.1p~>)n~L+/~42E~0%rfetch_add",
    "~+3T~)'2~)!A (~%)p~('e ~&'3~*'6~2%9~8%6~7:7 ^*%;5~C%N~%6M~7&Fsub~:&Fsub~k&Fsub~R&F~3%N~<&For~:&Eor~k&Dor~R&C~2%L~<&Bx~<&Cx~m&Dx~T&Ex~O&Fan~<-Tn~m-Tn~T-Tn~8-T~2w",
    "ttruct`@^(%>K~*OqTEST_AND_SET_TRUEVAL == 1` ~'zF__val^(%;A ~/y?~)!A~%VO$~)&Qlag;~1YFFLAG~%cX\t@ 0 $`~)_>~-|[flag_test~%'<set (^(%Dm~,!G *~2]7~1!b~&Ih^*%E=~*_b~-",
    "%/~''p~2)+~F%s~+54~6&!,~'*>~>aM~:%'~,OZ~D&C~'*0~3c3~%%2clear~P('~%!X~%%.~*%L~'!o~A'g~6%P~C'] ~D'V~.!r~)'O~-<m~-%y~(/uif ~Wl6^+%MB~-!G^+%0'__\t202311L~)l;^R%1iim",
    "mintrin^D&:UIMMINTRIN^5&:Y~5!B^+&D8x86gpr~(%<>~,!>~*%T~-!:x~7!;e~7!;p~7!;t~7!;s~7!;w~7!;avx~8!;vnni~9!Xfma~?!]8~8!D2~8!<512f~;!?er~;!Ap~<!acd~;!Avl~;!Abw~;!Adq~",
    "=%&~=!cvl~=!e~<(3~'!C~=&3vbmi~?!C~=!g4fmaps~<!Evnni~=&_popcnt~>'Lbmi2~A!D~>&g~;,'~'!C~>!g~(%y~>*1italg~=!n2intersect~H!K~/%A~'s.SSE2__~2-Gp16~<-ip16~,!w~)3u~*0K",
    "h~6+&~8+>f16c~5!<rt~61'gf~7(_vae~6*wvpclmulq~/*N~>'0bf~.&i~5!E~8!Cneconvert~<'Ramxtile~6!kmx~:2hmx~:%Lmxcomple~64Pprfch~6.'keylock~832mx~0*F~R9oa32~J9pX86GPR~39",
    "s ^'%JWNever^&%JI~,%(> directly; ~8:' instead.\"~)(l~)D8^.%Teattribute__((__gnu~'!D__^&&V*ways~.!6rtificial__))`__bsfd^(%PGX^&%Ow^)%Zn^)%pbtz (__X^&%O%~|%]~%%]r",
    "~B%]ia32_bsrsi~|%f~0%fwap~B%h~%!J32~+%e~)*U_iamcu^'%ja~'!6CRC3~%/[pragma GCC push_options~-!<target(\"crc32\"~*OS__DISABLE~*!v~8*Y^/%mh~g'>~%%_b^1%]1C,~1O2V~<)H",
    "~%!nq~%)JC,~%!Q~%'h~|&;~0&;w~=&;^&%Mn~E&<h~|&<~B&<d~=&<~&!5~C&:s~1&:~)7f~1+9un~7!<~,,Nop~*,M~.Kh~|/0)`__~'>Z~1'9~8/:pop^)%ak~:/;~:)J^)%QL~j&:rdpmc~(1GS~<)3~'!N_",
    "_S^-%bx~|&&~5&&tsc^&&k:~>%|~%!K~|(.~Q&+p~/*E*__A~B&9p (__A~I(:char~k&-ol~,4?~'4-X^(%jAC~=&4ol~&44X,~%!O~69c~.2u~m&1~,45~(3|~J&2h~L&2~m0nrol~30k~/&.__C &= 31^+%o",
    "r(__X <<~%!I |~&!2>> (-~%!Q 31)~A&?~p*]r~]*]r~|*]~D&1~_*]r~|*]~B&0~]*]>>~-*]<<~D*]^'%vy~h9fause~,5I~/('~'!D~/<H^*&3K~|;T~%K/q (~)62~>K5ll~|IM~1K7~H%g~(K=d~=K=~s",
    "8l~%Ju~H%t~%!P64~5?1~|K6~|>0~?Fcq~+.y~,'A~,Fi~,!;~CFod~|Fo~,Fo~|*W~/Fm~8'D~AFs~>.K~|)O~%>e~8&,~64Q63~K;463)~|&L~;6v~e&L~:7!~|&L~<&Leadeflags~DI_~)!P_u64~(7H~|9'",
    ")`__write~(%q~<-!~/&!~+!]~&&%~*3k~(2x~'4.(a)\t\t~(4l(a~+3B~&.I~)!F~'.X~%!G^'&Fd~|>?~g(t32~|(t~C(t~-Tg~<(n~.c,~(4%~*5%LP~%>H~)(glrotl(a,b~%(frolq((a), (b))~.!Jr~",
    "+!Jr~-!J^.&U_~1!yd~F!y~-!J^0&Tmbit_scan_forward(a)~%+6fd~-+4~)!Kreverse~(!Kr~/!Kswap~,,&d~3,&32~-,&~&!G~1Ta~)!Y~%W1~'!V~(!/~,!Btsc~(%C~)!0^0%lQ~&!=(~*!I(~,!jotw",
    "~-(*w~4(*rotw~-(*~8!J~C(y~<(x~Kqh~.p>~[qj~(%i~8!E^&%|'^)%2kSOFT_FLOAT ||^+%3*MMX__~.!6SSE~QC+general-regs-only~5C7GENERAL_REGS_ONLY~+CD~*v!~-t0~7nD^+'RUdef~0vid",
    "~6wf^8%*v^9%)8ce^6%'(cldemot~6y|clflushop~8!cwb~7!<zero~6!>mpccxad^6%0-enqcm~6!>fxs~6z8lzcn~6%slwp~5!;movdi~6!tmwait~:!=~6(dpconfi^6%+c~&1A~6!>ku^:%%G~6)braoi~7",
    "!urdseed^N%*Hserializ~6*(sg~6&mtb~6!utsxldtrk~5!A~'&i~3!=waitpk~6'hwbnoinv~6&Rxsave~:!=c~:!>~8,T~%!A^6%-Extes~6!Yhres~-.7~|=-`_wbinvd~;X*~(!E~0RGRDRND~Q3>rdrnd~",
    "532~)!v~&3&~|WA_rdrand16_step~1bG*__P~>mC~-!e__P~6y,~r&)32~0&)~'oG~D&'~)!c~(&'~1T!~)(M~0T!~5)d~4xp~+*>PI~T*>pi~8*>~'!v~6*>~uI9~%%Z~&Fc~Cumpi~(-D~3(%~'&3~2(%~3'H",
    "~6(%def ^0&tt~'!u^('Q?~Q(<fsgsbase~5(?~,%!~|(C~1(Ceadf~%%e~I(H~&!R~*MX~|TS~<&!64~K&!~*TR~|'w~.%vg~N'wg~|'w~L&!~G'wg~?'w~n9Jrite~,+l~/SWB~7SW~*+q__B~|%w~5%w64~7Z",
    "L~>&%~&ZG~|&%~.&%g~S'yg~|'y~B%w~R'yg~1'y~16F~,49~06I~85W~?:N~|Al~|Al~,>f64~0>f~*(9~G>l~)!i~|>l^+%;a~*(G^''T*~Q(Ipt~%+5~5(K~+!z~.<5~+<4~|-!`_~'%l~P,v~+!Z~),u~'&7",
    "~|&%~)&%~-0t~?%s~,0o~1*I~+(K~0*K~7)h~>*M~.!j~5['~0%7~5!I~G%B~Nb_~MbZ~>bW^Q%n=~1_P~,a(^7%lnmm3dnow^2%_u4~6SCop^2%Xp~S'Ofloat.h`/* <~'!/> */~*&?~%e,_H_~,j0~3!7FLT",
    "_RADIX __~)!/~/!DMANT_DIG~'!G~(!2~+!JDBL~,!J~,!2~+!JL~/!KL~7!LFL~,%>~2%9~*%4~3%/~+%*~2%%MIN_EXP~(&E~&!1~0&D~)!H~+!1~1&B~)!IL~6!J~(%/10~/%A~&!4~3%D~)!N~.!4~4%J~)",
    "!OL~9!P~&)(X~,%M~&!1~1)5X~,%G~1!HL~.!IL~6!J~(%/~.&m~)!4~3%D~.&m~4!NL~1!OL~9!P~'%>~+%I~1%B~+%:~2%3~,%,~.%%EPSILON~'%)~'!1~/%-~*!H~+!1~0%5~*!IL~6!J~'*M~+*W~1*P~+*",
    "I~2*B~,*:~//kOUNDS 1~.&UVAL_METHOD~(&Y~*!5~,%KECIMA~).Q~*!1~0/8~-!L~/!5~0/I~.!|~.!5~1/Y~-!QL~:!RFLT_HAS_SUBNORM~'%VHAS_DENORM~/%U~.!O~(!5~1!OL~2!PL~9!QFL^&&5]~+",
    ")I~'!H~2)P~+!L~&&P~3!LL~/!ML~2!N~Q6xiso646~'6y~(!0~.6zISO646^,':F~1!5and &&~,!2_eq &=~)!5bit~%!H~,!4or |~)!3compl ~~~)!3not !~,!1_eq !~*!xor |~*!eor_eq |~*!Cxor",
    " ~^~,!1_eq ~^=~S'Hlimits~''H~(!0~.'HGCC_LIMITS_H~+:J~/!:~(!RLIB~9!SNEXT~)!?~)<l_next~+%M~)B)~3!W~&&[~+%<~'%7~,<:~-!8~&!rCHAR_BIT~)!I~(!4^''5)_BIT_~*&AMB_LEN_MAX",
    "~)!U~*!6 1~)%W~&%,S~%!iMIN~)!Q~)!5 (-~'!/AX - 1)~/!X~+%0~*!L__~)!/~*&=U~1!U~)!5 (~*!c* 2 +~+%7~1%n~)%m~+&1~,!O~+%0~)%!~+&(~'&9HRT~.&p~'!4 (-~&!.~0&n~'!8~/!U~&&l",
    "~'!.~+&k~1!S~)!5 (~)!-~0&jIN~.%g~'!3 (-~%!-~/%e~'!7~.!R~%%c~'!-~+%b~0!P~(!4 (~(!,* 2U + 1U~)%/LONG~-%b~(!4 (-~&!.~&%dL~/!V~+%6~)!K__~(!.~+%h~1!S~)!5 (~)!-* 2UL~",
    "%%l~+%7~2%n~,%o~-%p~1!Z~,%r~0%s~4%x~3%y~+%z~.%|~'&!L)^-&A+(__GNU_LIBRARY__) ?~,!?USE_GNU) :^*%1r(__STRICT_ANSI__~.(6~6(q~0(v~8'.~,!?~4!i~>'6~5!e~.!:~')=~9'C~'1[",
    "~-!*^O'Q*lign~'6,~*!2~.6.STDALIGN^0'Pz~/!7~%!cas _A~&!,~.!<of~'!<o^+%:c_~'!X_is_~()/1~0!Cof~/!C~U&frg~+&drg~4&bRG~%7r~'!5~%*Y~(!:~+8i_need___va_list~.'9~&!j~(!5",
    "~0!j~-6g~2!p~)%1GNUC_VA_LIS~*87~/!:^)&S|~)Yd~'!o ~%Ztc~(!2;~+9i~/&i~'%(va_start(v,l)~.!w~*!;~,!Rend(v~/!N~&!7~,!Jarg~3!y~(!9~,!Ncopy(d,s~/!O~)!:~+'*~F!R^*'[p~%'",
    "S_~1!5~2!GT~,*%~('f^,'P(~-(' ~1(/~.!*~(&*~*%Q~/!5~2!GT~,*g~+%Q~6%0~T-0bool~*-1~&!1~1-2BOOL~//p~/!6bool^&&WU~)!6true~+/<false 0~+&Jbool_true_~%!?_are~c/Vdef^<'bE",
    "~%6q(~(6<(_STDDEF_H) && ~2!:_~/!;~(/>~'!X^'&qI~-!G~*!c_)~(!F^*%F'(~'/g^''TY)~3!>^((s=~8!b^)'Gq~4!dNULL~;%Fint_t)~4'0~/%j~.&O~,%k\t~5&t~0%m~3!B~%%n~;!e~'%p)~-+;~",
    "%'u~2!5_`~24.~'!O~1prsys_stdtypes_h~(&z~*%MNetBSD~%<A~*g3achine/ansi^.&E|~-=cFree~1!csys/_~%%=~7!a~/%Df~,+PIZE_T~0+NBSD~)!=~+'3~%!5~+5T~+!V^)'N]~4!r~+!A~*!u~)!8",
    "^+'LT~-!z^('A;~3!x~)!>~*(J~,!:~*%4~'!5~/28~0()~:,m ~,.y~)9q~*&L~)!6~.&f~,'L~0%7~(.J~A%4~'(T~-%1~)!7~:%.~3/s~6%/~*'Uu~4'm~.'Y~1'[sequent_~&(u~*!<~-)n~3'W~)!w~2!|",
    "TYPE~//Z(~S)!)`~/!p;~)%X~.!;~6'p~%!H~((z~4%R~?)>~(%O^('X=~-%L~&!8~;%I~,3F(~Q)Z~(%K^)'i[~-%L~'!9~/(V~2(Z~*7T~-%6~0(S~*.U~+/P~(!6T~)!8~3!7^-%(X~1!b~,*X~,/f~4!;__i",
    "nt~*%g_h~.]0~=%-DECLARED~+!uDEFINED~,*N~327~(!6~,&c~1!7~+=d~3!b~,&H~(!7~0&c~)!g~2&c~,a&~=%-~*&c~)!u~3&c~2(e^&'ro~3&>~%!<^&%+(int^1'rb~0!M~,.b~;D2~K!*`~',W\t~0+j",
    "`~-,[~L,U~'/V~,;U~%!5~+c9^('g,~,!6~(9J~)!3YS~(!J~+HgT~&!7~0!4~1%)~0%'~/-*~1!8~'!4~()L~8!<~5!m~;!Y~9-A~(2C~..T~''Q~/.Q~4&N~-/;~(!t~)+5~*(E~)!6~*(E~0=n~)!3~-(E~*.",
    "]~'(E~.!4~1%)~0%'~/.g~1!8~1'g~6!<~5!m~;!Y~9/%~1'L~/(E~,05~4&N~&(E~6D/~%HS~-HQDragonFly~5!B~(!akernel~5!GVMS__)`^1(Ps~19.~--%~01F~+!9~&1C^-%MR~,Dp(~.cIG~0=x~'/_)",
    "~+2%~,%,~);2~'WA_BEOS~+So~%%Ms~)!J~i2F~k!*~-35~.(2~U;j~(=B~+(s~'!6~-37~(Cd~+!7~)GT~*2j~&!6~1!5~2!o~1!m_~8Hq~4!9~22MBSD_RUN~62m~*![~92n~)?e~2!X~:!u~/4F~(!<H~03a~",
    "('|~+3b~%pK~3!UGCC~*'K~)-G~+(h~)!7~+(h~1LA~*32~((h~/!5~2!o~1!m~/3H~9M[~32l~1'J~0!<H~02f~+'J~)!<~/'J~,3'~9&/~;43~()e~.FE~3+I~5Le~+!N~'+>~-Q_ ~(ZhOURCE~-Qd (_POSI",
    "X~(!?~*1t~+!t run~&1J~4(H~2(5~7,v~76)&&~-!4 < 5~'ZNu~1-q~?As~L%5>= 5)~Z'N^&'CaBSD_VISIBL~+A%~)&x~')o~*5u~&'q^(((R~1('~0!_~=&j~12>~08?~,!:~/82~'!_^*)XW~*%v~-!Z~*",
    "NV~|6o~]7B~0P3~5V|~'dN~*3:INT~-.w~&!3~,'x~%!5~1'w~*!9~5<6~+'k~+!N~&%O;~6sP~&!A~Bb%~*09~-MO_~V[T~/FR_~P[3~06=_~OZk~6&F~h&E~c&D~W_2~81T~=>m~%jn~(%.NULL~*C-~&Cu~)+",
    "MNULL __null~(EY~3/A~-!R(^()bf^1(u/~%!C0~E.2~%%g~,z7~&kl~)4soffset^+%'*~(!4(TYPE, MEMBER~,xP~(!E ~.!F~'oD~+'I^.'J<)^6'JR= 201112L~)I7(~*-j~)'?~'!d~)!3~(!]03L)~.",
    ">lMAX_^&%*3T~.;]~,!<^+'V*^&'Uz @` ^-%a)max^&%)o_ll ^1%_E~%!=ed__~(!/of__^*&]x))));~(!xdouble~.!zd~N!z~&!i~&%!~-=7_i386__`  __float128~-%8f~&!4~C%:(~*!h~&%7~'*|$",
    " ~*!t~16v~/2s~E),~+)+XX~%+wPT~-AM~.!:  ~()&decltype(nullptr) ~'!,~4%j^Y%[1stdint^*%%h~%!0^2%DhWRAP_STDIN~%Cx ^.%Cw~)!]~/D:~.!Y~T%nno^&%mP~*%s~*!5^1%'dNORETUR^0%",
    "3Z~3!:~(!l _N~'!-~S%qomp^F(eHOMP~,%d~%!2 1~0*x^&)&1~&*uOPENMP~'*q811`# ~);_GOMP_DEPRECATED_5_0~2,tdeprecated__^*&QR~=!l~7,g~8%j20~A%j1~h%j1~2CyLIB~%!LOMP^&(:&~1",
    "LY~8!F 1`~23<^.(s%^&&zSx[4]^)'xT~71%4~%0i$ omp^&(EUt;~3%*~1V8(__~%+!~'('!~+63hppa__^/%+Balpha~%'V~3%y8 +^0)xc~B&3~/!T)^*))|~3%016~B!w8~.3uomp_nest~)';~()?^,(n7~",
    "%!Jsched_~&(T~*!3^'(tk= 1,~-!;dynam~%!<2~.!<guided = 3~.!;auto = 4~.!9monoton~%!p^*(xYU~'&4~'%f;~3&)proc_bin~,&-~*!7^&%4R= 0,~1!>true~,&K~*!=primary~,&O~*!Amast",
    "er~7-D^&((h~5!u~2!qclo~%%o3~2!>spread = 4~''(~+&2~4',sync_h~&IG~))6~)!7non~-'+~%*-~*!=~62G=~3!l,~1%*unconten~&)m1~2%1~,!E~G%8~+!V~2%?~,%=2~2%=~Q%;~;%9nonspecula",
    "tive~,,4~-'j~,!H~65O~**?~8%,~2%M~.%J8~2%J~B%G~1%C~+!V~(.0~**d~+++~6!u~/!T~/%a~24F~;2! ~32y~%!w^&(Z;~',F~&2x_~,!;__[2 *~14;~(6'~(!K~50Yause_resource~,0a~%!<soft~",
    "-0>~%!9har~%+>~(.b~/!k~-']^/(fDomp^,(fA~'[:~6E&~/:R~)!q_ENUM :~.!s~7;2~.!Y~:5nmemspace_handl^&*6|~4!h~('Gdefault_mem_~%!_~-1&arge_cap~-!C~)'pcons~.!a~)/8high_bw",
    "~-!A~)3=low_la~.!a~%.X~&*9~1&>~%Jd_ =~+(Z^&%VX$~6&r~4*Lallocator~I'Anull~*!Z~,'=~,'[~%!E~-3P~-'[~(!C2~2'[~(!>3~4'[~(!A4~4'[~(!A5~)%!grou~.%A6~),pteam~-!>7~(!>^'",
    "(ff~,!?8~*(Z~2'Y~?([~2!U~9(]trait_key~+//atk~*1c~,(%atk^-*=R2~-!<ccess~,'ratk_pool~%wu~,'natk_fallback~,'i~%!;b_data~,'d~%!oinn~%7t7~-!9artition = 8~,'!~+&S~?&z",
    "valu~,20atv~(+. = (~01N) -~+'6v~2?;atv~1?5atv~-:8~+'Jv~/;q~+'Lv_^)&iDd~.'Nv^(%Avial~7Jy=~3!l~,!hprivate~.(:v_all~.(7v~'+w~,9Z~%!gteam = 9~-&c~%-- = 1~-'6~,/-fb ",
    "= 1~-'B~%/j~&!;2~-%]bort~'!<3~/%x~',f~&!A~-']enviro~(,%1~-'aneares~%!;~-&ublock~&AI~-&zinterleav~&!?~3+9~'*m~2;*~/!L~++7~/+z key;~'!?~)7e ~%%';~2%?~5,Revent~E40",
    "~&1.~.!S~?1*~.!Q;~+_E^1*O,\"C\" @~19qNOTHROW^)*N2~3RJFAULT~%[j_ALLOCATOR~',E~.66~7;(~(%2~1?Ono~%%F~&Sv~F%G~);i^,(6j~%B/et_num~'-=s (int)~/%Q;^,*R:omp_g~0!Yvoid~",
    "F!Zmax~T!Z~'7.num~L!Ynum~%LJ~9%8~0!Yin_parallel~A!W~-'j~(Qt~J'f~)!U~L%4nested~5%3~6Gm~6';~'!m~4%I~8!n~1%bini~&Uh (~*Y2 *~9&z~2!__with~&:u~-!j,~0Iz)~%/h~>%%destr",
    "oy~V%ese~W&Fun~P!a~((Yt~(YQ~A!]~6'hn~.!f~+ZK~J(T~*!X~/(Y~-!t~a(a~b%y~(,u~[!i~&(u~V!k~-)'~O!i~(!j~'tQ~(.Owtime~?2C~2!Wck~N0R~%aKule~&&!~'aY, ~<1t~)!gg~8!g *~%!i~",
    "D'V~+53lim^&(Jm~;&n~-&6~%upctive_level~L7n~3!b~J6Zsupported~Z!i~%!U~L!Tancestor~-8e~I&j~%Mj~%Jr~J!W~,&T~L9Cfina~J!Tget_cancella~%K[~>'6o~.fQ~)!j~)!7~Q;zlace~M)3",
    "~%!U~,<a~J-R~&!a~%&!i~'?r~M-N~)%I~M&(~(Od~K&k~.&.~)!g~)%N~&&4~F7X~%>y~'L8devic~L+S~0!]~N)U~&!Y~M)V~&!V~TCnteam~NE+eam~<%6~1.*s~%:cial~S'2~Z!_~%Gbask_priority~J7",
    "1fulfill~&Lw~&6G~.M*~IEP~*(.~M5[~E(e~-%7~%!U~/7d~M44s~F8I~-%K*~%<dar~%4E^(*z+^+%ZE~H:c~'!i^,*wu~>!a~)>3~&!_is_pres~%)&~%dg ~T!lmemcpy~*%P~.!p~.&S^*)!-~/&n~2'%~&",
    "%T~:D&~5%V_rect~G%[~%%3`^'(q'~&!M~-!E^((k,~|!B~<!B~T'&associat^&)+;~/)M~A(i\t~4(i~L*-dis~=%P~5!r~5.jaffinity_forma~)+q~%ud~:9e~.'k~)>U~1!s~%!m~/'(~FK<isplay~)!y",
    "~Z%jcapture~,!p~4%g~()1~'%/~3%u~0(_~.wH~&4X~0w]~G)S~/!Zall~6!u~:)Qo~6sL~)PB~*s1~%%(~1tH^((u] ~*/)\t\t~(-[~0dg []~MP[~/%L~2%z~G6q~(>4~[!v~;'Mg~6%0~G8g~-6G^))Cro~",
    "=x:~6db~A(**~)%!~08P`\t\t\t~j%B~2g*^&+7y~&6q~(!/~&(Qfree)~&*[_~&%K~%LA__ (1)))~5&8^&%+N~6:p~33b~6&Q~'%C~|&U~=&U2)^&'2Ploc~&&J~;&mc~I&f ~|);~X);, 2~>)>~F&U~595~;",
    ")P~|&m~B)Q, 3~L)Tre~'&|~<Ae~U)O~]!b~M'D~,'7 ~2,d))~3<n~(;!env~7HO~4ug$^]%Szys^)&vj~%!!^r&ul"]

end CInspect.Includes

import CInspect.Text.Packed
/-!
The headers of the C standard library that most programs include: input and output, general utilities, strings, characters, errors, limits, integer types, time, signals, locales, non-local jumps and assertions.

Each entry is the full path of a header and its text, reduced to the
declarations and macros that programs can see.
-/

namespace CInspect.Includes

/-- The headers of the C standard library that most programs include. -/
def standardHeaders : List (String × String) := Text.unpackEntries <|
  String.join [
    "/usr/include/assert.h`~5!!#ifdef\t_ASSERT_H``# un~.!6~(!5~&!q~(!2 _~(!FVOID_CAST``# ~'!w_USE_GNU`# ~'!S~&!e_perror`# endif``#~(!+define~*%G\t1`#~'&? <features.h",
    ">~%&/ ~&!Rd __cplusplus && __GNUC_PREREQ (2,95)`#~'!R~3&- static_cast<void>`#else~=!X(void)~)&5~,'sNDEBUG`~*!f~&&u(expr)\t\t(~4!u0))~)(e~4'j~-!q~''k(errnum)~:!y",
    "~+(4lse~%%t~&)5~((3_DECLS~((L~1!;__BEGIN~'!1``extern void __~'%_fail (const char *~(!>ion, ~.!<file,`\t\t\t   unsigned int __line~1!Sunction)`     __THROW __att",
    "ribute__ ((__noreturn__));~8&%~&'b~'&,~&%E~&'n~9%y\t~|%y~'%y~6%|~O'x~+%k~R%P__END~(*/~*,N# ~6.8`# ~.!=has_builtin`# ~%!A~-!8 (_~(!._FILE)~%!J~1.1FILE ~.!N (~7!P",
    "LIN~,!P~%!2~'!P~&&<#~+!,if !~*&)~+%=~%!T~7%WFILE__~5!F~'%MLIN~'!F~)%9~5/u~%!!\\~&(l(~+1E <bool> ~,!L~'!K ?~&*7(0~/!g :~0.N#expr,~.&:,~.&',~&!b~'!!~(!q~1!!~*!jUN",
    "CTION~&0rl~.'j~%48_ ||~+*,STRICT_ANSI~&'8~A'/(~-!7~(&Y?~54F0~.'C~:'(~&)1,~)(q,~9&Nse~(4H~?&%(~&5s sizeof~(&2 ? 1 : 0), __extension__ (@~+))if ~5&e   ;~,(K~/!Bel",
    "se~2!V~_&s;~'!o$~-6G~R7G~*'<!~.!7~'%|~D)=:~74l~(!w~N)F~,:a~725~%%g~/<J 6)~%%X~0!:4)~60B~'%D\t~.)m__PRETTY~)!D~%-'~'<v~.%aSTDC_VERS~%!J~&>5~/!7>= 199901L~A%Tfunc",
    "~'1T~'%;~:!R(~-7() 0)~,27~/Ak~%A=(~*&1USE_ISOC11~*+c&& (!~8&U\t\t\\`\t ||~2&Z<= 201710L~)!H!~/(T13, 0))~,%9!~3)P)~)Dl~'4*~)E*~'',~-!: _S~.!J~&&j\x00~-Ffctype~;F",
    "e~&FPCTYPE_H~*E=~'!4\t1`~7E=~*!9bits/typ~'EV~/AA~)B+ISbit~*%J ~.!gendian~%%(~&:KBYTE_ORDER == __BIG_ENDIAN~+/Q~&%!(bit)\t(1 << ~%!/)~+,.~4!N~%!* < 8 ? (~,!] << ",
    "8) :~/!9>> 8~,.senum`@`  _ISupper =~'%0 (0),~&!<low~-!<1~(!<alpha~+!<2~(!<digit~+!<3~(!<x~0!=4~(!=space~+!<5~(!<prin~,!V6~(!<graph~+!<7~(!<blank~+!<8~(!<cntrl~+",
    "!<9~)%3unc~,%31~)&|alnum~,!=1)`$;~.JF~+!!~'Cm~&/V~)E,short~%CC**__~%,L_b_loc~(KA~?CR~%!v~&CO~-%0__int32_~,%'to~%).~|%-to~%*R~W%-~+-v~-EG~)3Ois~%%5(c, type)~%?I(",
    "(~0']))[(int) (c)] & (~2(<)~&!h`#~%?]~.3gEXTERN_INLINES~3%P_f(~*%O~&74rn_inline int~':6~*BDis##type~(KPc)~('8~0!N@~(:w~+!7  ~&I7 ~;&h__~;&j_IS~&%P;~%!w$~2TV_isa",
    "scii(c)\t(((c) & ~~0x7f) ==~%7V~)!Nto~+!N~%!M~%!L~,!tex~&)&name)\t~'*cint nam~&'+~)''~&-F~)!W (is~%.-);~0!8pha~0!8~%/6~0!8~%0x~0!8~%,z~0!8~%0T~0!8~%1-~1!8unc~1!",
    "8~%1t~0!8~%--~0!8x~(%g~*04int ~'.i~2*A;~0!L~&4a~5!L~)[W~)<*99~.%N~%3%)~*1v~&!U ~*D%~,%;~',i~)%;~(QAmask~+%H~+!s~/-pMISC~.JRUSE_XOPEN~/'&~'+K~7&S~-''~<!M~+&k~(1a",
    "~.(T~(3)~+'*~*Y2_tobody(c, f, a, args~'17~-Cv~2.u(@~''Dres;~3/<~&J6~(Jrc) > 1)~.!K\t@~0/y\t~&!Z~*Rr~%3Want_p (c))~0!Q~+0i~-!9 ~'%oc = (c);~5!G~%&6 =~%!K< -128~&",
    "CAc > 255~%Grc : (a)[__c];~/!i$~3%K~,LL~-!Q~(%<f~%(6~0%d$~43.~7!u~(!q(a~,5|;~4!g~&(t~%M2~%,/~+E-NO~&CF~(MC~,5r`~+!/ (~&1t~0!7pha~/!7~&1r~.!7~&0-~.!7~&+i~.!7~&1o",
    "~.!7~&1n~/!7~%1m~.!7~&1l~.!7~&-7~.!7~'1j~&L-~*06~)0k~+!O~&0k~-Jg~.9k~'!P~*9_~'5H(c)\t~*;?(c),~)?p)~.!Qpha~8!Q~%(.~+!Q~%(,~6!Q~'(H~+!Q~%&d~6!Q~)''~)!Q~%(b~6!Q~')",
    "%~+!Q~%(|~6!Q~')>~+!Q~%)<~6!Q~')X~,!Qunc~8!Q~&)t~+!Q~%)r~6!Q~'*5~+!Q~%*3~6!Q~'*O~+!Qx~;'g~>*l~+Qt~'7Y~6!m~3+/~-X+~6Ay~3AW`__NTH (~1:/)~%KZ~'A!~%2W=~&2i~%Thc < 2",
    "56 ?~+A?~-Fd)~&2y~%Vjc;`$`~>%M~/;0~U%M~+G+~1%M~-'G~*d!>= 2 &&~+.nOPTIMIZE~&WQ!~7ji~'(y~'&p~&(y~&9? ~%GO~&!;, ~7'C,~%7m~-!p~++6~-!p~%!;~-!p~,&f~)!p~,&Z~K=6~*%Q~+",
    "EZ~)Ej (c~.%w~+!G~)=9c)~,eR_~+'9(~'79~9*K~*7Z)~.!j~)'3~3!j~.)h~.!j~3[)~*-9~%&q2K8~2VW~%WC/locale_t~%WL~-&P~)5bl~(M2, ~&!R~(M:~'!1->~)JV~JM:~,Lp~'A__l~&ID ~0:w~4",
    "IT~(%[_~9Ia_l~)Ic_~-I7~(!<pha~4!<~%6M~4!<~%2L~4!<~')b~2!<~%5h~4!<~%5Q~5!<unc~5!<~%5(~4!<~'*E~2!<x~*&+~0!>~%4(~&!=~-F|_~*,/~+Hk~((< __l~+G5~2K3~E!Z~1%?~'&;~P%?~J",
    "!Z~r30~+'I(c~.-=~-2L~+!L, ~2-W~)3c~+!l)~/%6~'&a~B%6~'!L~6%6~'4)~7%6~4&H\t~-*/~%:e(~5!b~2%s\t~-)O~1!b~)2) ~)Zf~+G=~,1V~'/;(c,l~+<G_l~.CZ, (l~/'a~)/a~<!bpha~5!b~'",
    "0+~:!b~%!E~5!b~'.F~:!b~%!E~5!b~*(V~7!b~(*V~2!b~'1=~:!b~%!E~5!b~'1c~:!b~%!E~6!b~&2-~;!bunc~6!b~'2P~:!b~%!E~5!b~*+F~7!b~(,q~2!bx~B(ux~,(v~/!e~'3f~:!d~%!E~+!c~,:kM",
    "ISC~.uz~'=S~(!x((l~%y|~+=m~/xa~'=d~0!U~+=|~+F_~.>x~0-y~'!4~).z~-'R~3-n~'!4~8!T~2-c~&!4~8!T~1([~'!4~8!T~1-J~01y~/!T~1->~'!4~8!T~1-3~'!4~9!T~0-(~'!4~8!T~1,u~'!4~8",
    "!T~1,j~04.~/!T~2,]x~3(%~-!W~1,Q~'!4~0!U~<,H~/,F~+,W~/&!~/G;~*!U~)!4~/!U~),H~/Ew^,%9B^6%!Lerrno^B%!LERRNO^,%!L~'!4 ^9%!L`^0%!N~'%8>`~-rFASSEMBLER__`^8%B/~%v&^&%>",
    "ko_location~'sl~5sg~'sa;~*G!~%!c~%Il~0!m~&)6~1ii~+wihar *program_inv~'!b_name;~B!J~%Hi~'!P^5%'h/^&%0h~&JE~))A~4)8~5)?int^'%(X~=)C _INTTYPES~*)F~,!7^:%)t~+!:stdi",
    "n~'LF~*)C__gwchar_t_~'CN~+(!~6CV~(!U ~'!+~2aSWCHAR_TYPE__`type~&!v~,!:~+!o;^3%*!_need_~*%0 ~,&Cdef.h>~)%(~(%b~/!y~'Y9~)!y~2&i\t1~*oi~&G(WORDSIZE == 64~-%dPRI64_",
    "PREFIX\t\"l\"~0!APTR~.!B~1&O~/!i~<!j^-%71~)&?PRId8\t\t\"d\"~.!716~3!832~3!864\t\t~.%Y \"d\"~/%2LEAST8~2!d~%!;16~7!<32~7!<64~C%CF~6%BF~&%A~/'E ~5!L32~G!L~7%b~-!M",
    "i8\t\t\"i~.!di~%(9~0!8~%(9~0!8~4(9i~/&ri~((9~0!d~)(9~5!<32~7!<~3&S~1%CF~6%B~8(9~4!L~4(9~4!L~7%b~-!Mo8\t\t\"o~.!do~%(9~0!8~%(9~0!8~4(9o~/&ro~((9~0!d~)(9~5!<32~7!",
    "<~3&S~1%CF~6%B~8(9~4!L~4(9~4!L~7%b~-!Mu8\t\t\"u~.!du~%(9~0!8~%(9~0!8~4(9u~/&ru~((9~0!d~)(9~5!<32~7!<~3&S~1%CF~6%B~8(9~4!L~4(9~4!L~7%b~-!Mx8\t\t\"x~.!dx~%(9~0!8~",
    "%(9~0!8~4(9x~/&rx~((9~0!d~)(9~5!<32~7!<~3&S~1%CF~6%B~8(9~4!L~4(9~4!L~7%b~-!MX8\t\t\"X~.!dX~%(9~0!8~%(9~0!8~4(9X~/&rX~((9~0!d~)(9~5!<32~7!<~3&S~1%CF~6%B~8(9~4!L~",
    "4(9~4!L~7%b~/;&MAX~49h~-5y~4!H~/6Fo~4!H~/2Tu~4!H~/.ex~4!H~/*sX~4!H~3&WPTR~B<oi~5!I~0&Y~5!I~0&Z~5!I~0&[~5!I~0&]~5!I~&&_~+&bSCN~%Crhh~,&PSCN~&Ct~1!9~1CuSCN~CCuSCN",
    "~)Cu~2%9~)-Z~6!=~0Cx~)!<~ACxSCN~(Cx~2%E~ECz~(!L~ACz~(!L~BCzSCN~%Czhhi~.!f~&D!~1!9~1D%SCN~CD%SCN~)D%~2%9~*(B~5!=~0D(~)!<~AD(SCN~(D(~2%E~ED*~(!L~AD*~(!L~BD*SCN~%>",
    "lhhu~.!f~&>n~1!9~1>oSCN~C>oSCN~)>o~2%9~*(B~5!=~0>r~)!<~A>rSCN~(>r~2%E~E>t~(!L~A>t~(!L~B>tSCN~%HIhho~.!f~&HK~1!9~1HLSCN~CHLSCN~)HL~2%9~*(B~5!=~0HO~)!<~AHOSCN~(HO",
    "~2%E~EHQ~(!L~AHQ~(!L~BHQSCN~%D:hhx~.!f~&D<~1!9~1D=SCN~CD=SCN~)D=~2%9~*(B~5!=~0DA~)!<~ADASCN~(DA~2%E~EDC~(!L~ADC~(!L~8DC~.5u~A?,SCN~B?,SCN~B?,SCN~B?,SCN~8?,~/&1~",
    "B>]SCN~C>]SCN~C>]SCN~C>]SCN~9>]`^4%l+~2c-`~)d=struct`  @`    long~%kkquot;~.!6rem;`  $ imaxdiv_t;^)&2F~8!w^.%td~%!r~3%2~<!J~7%F~(cv~*mvmax_t~%!Jabs (~)!5__n)^I%",
    "ee~(!u~(%:~(!-~.!vumer,~*%C__denom)^)%P=~N%:~(!mstrtoimax^0&1>restric~%%Jptr^(&5-~&!C~.!Dendpt~&%n __base^4%4eu~.%Du~K%D~(%E ~T%F~)%Ewcs~.&h~+mb~:%K~,!I~B&t^-%k",
    "a~5&y~%%Uu~Q%U~.%V ~Q%W~CxAlimit~CrzLIBC_LIMITS_H_~*s&~.!;~%s*~(!>_G~%!AINTERNAL_STARTING_HEADER_IMPLEMENTATION~0uYlibc-header-star~'s]^+%b'MB_LEN_MAX\t16~(&)^6",
    "&2*~)!/< 2~'MO~*&U~&&7~,p*~(!7~.uR~%%jwordsize~)%a^-%El~%t.BIT\t8~-!:S~%!;MIN\t(-128)~2!>AX\t127~-!YU~)!=255`^-%'Q~%!=UNSIGNED^.&8,~)%90~2!9AX\t~)%!^4&*f~)!c~)&",
    "+~5!kS~-!k^)%:S~)&NHRT~'&k3276~.&m~%!?AX\t3276~/&n~)!?65535~-!?IN~(!y~%!-AX - 1)~0!EAX\t214748364~/%+~(!D4294967295U~((%~5wH~(!_LONG~%!_9223372036854775807L~4'n",
    "~)!U~*%ZL^4&<Z~&!L~%&O~(!W - 1L)~F%jU~)%618446744073709551615U~5%m~*!X~+',L^.%5_^3%Y<`~-&Z~='7L~3!O~&&a~-&b~(&c~*%l~?&JL`^3%/6#^0%Q9~(03~102^-%GfGC~,2R^*%QX_nex",
    "t <~(3E>~,%'^2%qg~&'D^.%I,~&%=~*18~)'(~,)y~4'<-1^*%ES~0!e~&.?~1(R__~%!.~(!3~%%G~/!hU~4!i~+(>(~*(l* 2ULL + ~,%Y~.'&~(5]USE (IEC_60559_BFP_EXT_C2X)~*%K~%0SWIDTH~0",
    "3R~%!8 8~2&)S~5!XS~>!YU~5!YU~?%9HRT~2%8~)!8 16~3%8~5!YU~?!ZIN~2!X~)!7 32~3%7~4!WU~>!X~%)F~0!X~*!8~+1&~4*P~4!dU~H!eL~6%K~+!e~%2A~6+s~2%E~7!]~<+cSO~.+QBOOL~/,y~(!",
    "6 1~2%[~%!?~0%Y~*!8~,!W^-&&y^'&'SPOSIX^2%aWposix1_lim~,1&~2!a2~6!a2~=!a^(%es~.!_xopen~/!]~/C0ocal^C&>zLOCAL^-&>|~(!5^<%9+~)C;need_NULL^.%9?^'%6x~0C+~'%f^2&?O~*!",
    "zLC^&%Tl^*&M!__~(!7~,!INUMERIC~-!I~'!7~,!KTIM~+!r~&!KTIM~-!rCOLLATE~.%?~&!7~,!KMONETARY~,!K~(!7~-!LESSAGES~-!L~'!7~)(9LC_ALL\t\t~'!DALL~,!jPAPER~(!?~%!0~-&zAME~",
    ")!aNA~.&IADDRESS~)%(~&!2~-':ELEPHONE~(!H~)!4~.&BASUR~%HT~(!L~+!6~,!NIDENTIFIC~%I'~&!O~.!7````~&Tm lconv`@```~(OCdecimal_poin~%Td~&!:thousands_sep^&&bB~)!?groupi",
    "ng~/!:int_curr_symbol~*!scurrency~1!<mon_~7%Pmon_~/%T~,!>~*%S~(!9positive_sign~*!:nega~2!:int_frac_digits~)!;~-!7~(!8p_cs_precede~-!:sep_by_space~*!;n~6!Sn~0!S~",
    ",'gp~%%r_pos~*%wn~,!7#~4Cw~+&I~7%w~&!>~6%|int_n~:![~=&+~'%'~1&/~'!_~+&3~%Fg~'!B__~3&&~/!?~.%E~-!An~;!_n~<!_~4&%~)![~,&'~%5W$;^1%M[set~&3w^)%leategory^0&k3^(%jD~",
    "2WQ~,.] *~&!L~%!/^.%P(;`~47j2K8~)RX^D%vq~)%E~(!; new~6&<_mask~6&B~(Xz^+%oO~1[e~,hl~(6e_MASK\t^'&RQ~*7!)~-!N~'6j~&!P~+!O~'!;~.!QTIM~3%%TIM~/%!~'6t~1%!~'!;~.!Q~(6",
    "z~1!R~(!<~/!S~'7)~2!S~'!<~.!S~%6t~2&/~%!:~/'1A~4&YNA~0&Y~'71~1%P~'!;~/'Z~(7:~1!S~)!=~0&[~)7D~3&a~)!?~.!Y~.7N~1!]~.!C~/&JLL~(&t~-*g \\^&&w(|~0*Q~-!<~)*<~-!9~,**~",
    "-!<~-)n~.!=~,)V~-!=~*)A~.%fA~4%J~,(s~.&!~-(]~/%K~.(F~-!A~3(-~(!D)~4/kdup~(/k~+/6dataset^5&HMvoid free~I!]~3%Fus~J!e~,*'GLOBAL~'F7\t(~)!c) -~%ZN^K%e5setjmp~BGcSE",
    "TJMP~,Gc~(!5~;Gc~1uA~-4]~(%J^6&f5/~&6)___jmp_buf_tag~%%%~.tx ~-!E ~'!/[1]^0&*S~&%> (~'!F~%l_v~)(5NL^-''b~&5usig~(!Z~5%<~%!j[1]~(mLsave^-&P9~'%%~,%!~F!x~0!h~(EO~",
    "&!d(env)\t~)!qenv)`~0+rlong~K&4val~.o]NL^C')h^Y&Rh~%%s_~|%t~+%t^/&7B~.Rc~?*vsig~/*y~).Z~)*A(env, ~))w\t~-*]~.!?`~1(wsig~*')~)%<~&&w~i&t~'W4USE_FORTIFY_LEVEL > 0",
    "~1?K~&&12~,U!~D0qignal~C0qIGNAL^,%lc~)!5~W0o^)&rh~01/ignum-generic^/%mQ~,18ig_atomic~'C9~2,M~&*Q~8!eset~&!a^:&]&~%,|~7-:2K~+vT_pid^+%o&^*%n+~%!; ~%!);~,vt~/!U~'",
    "%S^2&A0~2]Q__u~7%;~%!; u~2%;~.!U~6]s~,'[199309~8Gb~'5etimespec~>'m~+!w~7's_EXTENDED~8%>iginfo~')*~0,y~&!A-~%Has~2a)^.&!o~7%.val~1*4~6'9~9!jevent~9%v~%!B~3%w~*2J",
    "~%1,(*~%1]handler_t)~%KO^.'<M~.!F __sysv~%Nna^)&>,sig,~2!M~'!/^0%*A^1&hw~6%8~e%6~-hr~/(q~7%C~_%=^&'Ev~)x7REDIRECT_NTH~9'v~,!I~%5bnal^('C1   ~G%Z~,!U~-(u)^3%z/~'",
    "&b~-!L~4/'~=-k~.xH~0S6~6&lbsd~x)N~&4U~+?skill (~(3>~%!+~)AZig^d&on~*0r~.B=killpg~-%Hgrp~>%I~,!graise~+'A~,Hl~2,B~8,C~](3~+%]g~1!n~6'a^4&T,~,>Fp~3%b~.XTs^1'Ltp~'",
    "4C^(%87~)4r *__pinfo~4!k^1',0~2%q~-6/~'!A^'%'[~,I>igpau~1(aasm__ (\"__xpg_~(!I\")` ~-AKdeprecated_msg~%!VUse th~&CHuspend ^('NK instead\"~*/.~0JD~0%]_or~']L~&!6",
    "is~%%u;`~./l~%![(~'&7~*!n~%!5,^5%(9~3+:`~0Ecmask~&%!^&&NIglibc_macro_warning (\"~'!M is ~*'6\"^(&YVint)(1u <<~'%b - 1)))~/Mxigblock~(&y~-Lu~8(F_;~1!lset~%%]~c!n",
    "g~(!n^:&8R~.!h~;(*~)(!NSIG\t_NSIG^:'&T~*A]~089~)!0~=%<~:!g~,!_~342~0')emptyset~%86~%El~%.V~+V| __nonnull ((1^0%IC sigfill~c!jadd~4!i~+4Jno~L!vdel~p!vismember~+2",
    "G~:%&^0'7<~0%+^3&?&~0%=~*(l~5%?~M(+n~7(+~2%(left,`~(=a~2!Drigh~8%K, 2, 3~4%Qor~V%P~Y%O^+&:S~3G6a~%5-~&pR~/6Wroc~,10how~4%w^+%M%se~%&)\t~7!Co~;d_~(2P~'6u~:)h~A)_",
    "~&7U~2:t~'X&~*!G~.%oac~+)l~?!Poact^8&gpsigpend~%6Z~M,&~.-1~(Ln506~3'Mwai~5-6~/(a^(&KB~,!:ig~).k~.*X~-*U~6%_~%Qi~5%_~/>b~?*G~*?)~+!Dinfo~5)b~&,:~*TTUSE~&ooBITS64",
    "~/%atimed~H'H~%xX~<%c~&!F~-*n~(TL~/!Rtimeout~4(/~&(,~)KD~1M4~.?N~(!9~%*l~)&I,^8'eX~D&d~7!a~?&x~8!Z~M'4~9!m~%+c~)&Y64~;'b~*'c~+B:~*)h~0!q`^3'lZ~1,5queue~:M7~(0hu",
    "nion ~&X%~4f0;^3'|%~3DP~34Wcontext~44X^('J9~*1e~'!Q~%0|cp~-M,~+?S~>Qw~8c'8~*BA^'%=>size_t~,&0^*%=B~9_uack~)ZZ~OdU8`^.&RWys/u~+'F~RTd~1%7~(I0~/==nterrupt~-6g~'Jh",
    "~(!?~)(>~GLO~*6lwith SA_RESTART~,LQ~4*9~%'k~7aHstksz~5!?s_flag~&k.~19Dlt~%%!~)0S~&(y~00Rs~&4x~5!Aoss~7VL((~XY>)^('f-~5)!)~>h/~-'P~g%a~A%_~2>4~&(!~*.w~&!4*~%'s ~",
    "3!:oss^;'Yc~6MF~<U+~1%ehold~4Wt~NTa~)C/~4Tb~22(l~6Zy~|%Csigignor~f%Dnal~>%>~2P;~%HK~<]udisp~I%a~%*4~1%eand~5'8s~-Y?~Bq)506~2,KUNIX98~37kpthread~*wU~21V~&!F~.nw^",
    "/%+9~%Xx^&%I/~%/!rtmin^2%>o~A!Xax~2!X~(z:SIGRTMIN~)?3~9%F))~/!YAX~>!Yax~%!Y`~4zVal_~(;3^D%!r^'&lC^=%!r _STDINT^-%!r~'!5^|%vN^)%vN^H%%Swchar~4!;^/%ub~0'X~%'&-int",
    "n^5&u0~'!Du~*!E~7!Fleas^*%Ei~([4^''>mchar\t\tint_fast8~%[8^4%p5~(![^(&,M~*!X16_t;~;!D32~>!D64~&]Zlse~)!J~%!E~7%1~.!?~&%-^-&.N~.%;~:%A~'.Z~(!R^)'C,~&':u~K';~)!a~",
    ")%;u~6&6~;!M~.'N~;!M~4'W^,(=!\t~B%M~.!I~<'l~.%W~:%]^.%1=^1%v|~)Pjintptr^3%+F~-)!~%!G^.%+K~1!_~(Ed~>'Y~(!q~'L?~C%X~)+3~a%T~)(4~)%P^0%(x~%!umax_~&&q~%!-;^-%.X~)!C",
    "~)!.~(X0^>&xIINT64_C(c)\tc ## L~-!BU~0!CUL^4&xL~1!l~B!mL^6&xTINT8_MIN\t^*&+x~*!=16~(!>32767^&%ww~*!C32~(!C^*&&o~0!H64~(!H~*&0^3&!f)-1)~1%iAX\t\t(127~2%h~%!=~%%g",
    "~2%e~%!?~*%d~2%b~%!E~>%a)~,'KU~+%a25^,(PCU~,%b6553~0!A~)%c^+&(J~/!G~+%e~))5^4&'1~%%g~-&H_^&&I:~9)=~&!D~')D~7)C~&!H~')I~<)H~&!M~')N~R)M~)&&~6)S~*&%AX~5)X~*%zAX~:",
    ")_~*%wAX~R)e~,%v~3)j~.%v~4)o~.%w~:)t~0%y~Q)yF~3)x~>1T~(!Z~)*6~3'8L-^1&46F~,*F~:!W~/2'~1%<~0++~9%2~0!M^/'1-~(!T~Z11~('e~,+]~K'dAX\t~4%6L~8&O~<!T~;'[~2,g~8%,~.!J~",
    ";'U~U3'~-'T~'-=~>'TU~0&B^6&5b)~4!W~(&O~:!W~/'Z~1%<~/.K~9%1~/!L~/'aU~/'b~I/%~B*uPTR~(,8~F.X~%!T~%(P~A+KU~-!R~J'l~.%g~;/*~*%+~6+q~.%P~5(2~/2MMAX~X/I~%!a~U,R~,!_~D",
    ")Q~C)SPTRDIFF~K)T~)!U~=)U^+(P=~*%M32_~(!eLONG^,&A0~/%W~*(y~(%N~6%O~+!L)^4&D!~9%&~H%%^4'zq~*(hSIG_ATOMIC~?D5~,!M~1%1~C(|SIZE~J-G~0(F~%!dU~0(D~+!z~+,q~6'p~6!P~7'C",
    "~'LPW^)&N)~+&D~)!8\t\t^('Hz^.&DP~'!7AX~+!EAX~4(OW^(&MO\t(0u)~0!;~/&'u)~1J'~&JP~0H5~3!932~*!9~B3U~1Li~227~2LD~1&XU~5%uU~6%vU~,%w~%L|~F8w~BNI~?N'~D'4MAX~7O|U~1!BU",
    "~6'U~/!j~A!k~+%t^I&IA~/*C^*&Gn~-(c~1!:~&(c^+&G/~.)!~2!<~&)%^+&FO~.)>~2!<~&(S^+&D?~.(o~)!<~5KI~5&C~9!A~,Ik~6&O~;!C~,J.~6&[~;!C~,JD~6&j~2!C~4FY~6&oF~:&nF~,&K^-&It",
    "~3B6~:!J~+B3~D!r~=!J~+BP~7'1F~<'0PTR~?%S~5!F~1>0~6%L~-!=~*!>~(9y~:%I~+98~2*)~%7?~:!cW^+&Rd~,![W^-&PQ^0&YU~2p[^9'gZ~.p[O~0pZO~|pY~+pY^1%rD~)%;^-%0k~.!9^9&KE~0!M_",
    "_va_list~.!Rarg^9%rz~8rF/__fpos_t~?!E64~=!GFILE~9!C~=!A^'%,1~(!H^2%RD^6%,lcookie_io^))-ls^b%tp8^2%[f^+%A7VA_LIST_DEFINED~+i4gnuc~((f ~'!+;~,AY~1!c~,AR~(C&~2)F^C",
    "%5Y^&%&+^F%wBoff^/'jE^+%CjFILE_OFFSET~+rn~'!Y ~%!)^)%_D~-!B64~-!D^0'i(~0%E^*%wo~/&,LARGEFILE64^/%1b~'%4^3%x;~+%O~'qs~-%I~-!Z^=%xA~-**~''=s~&/'~3%G~'!= ~'!+~-%G~",
    "0!Z^4%bc~D(K~&.n ~&!*~0v/~*.l~+!E^2&!:~+(%~8!b~/uV~)1BIOFBF 0~,!4LBF 1~,!4NBF^&&y5~(!7BUFSIZ 819^'&yM~'!;EOF (~%S/~+!8SEEK_SET\t0~.!6CUR\t1~.!6END\t2~40G~,!IDAT",
    "A\t3~/!8HOLE\t4^<%C<^=&2N~*9J_tmpdir\t\"/tmp\"^0(l+ L_tmpnam 2~*&JTMP_MAX 238328^7%)Co^(&b*^4%c&~)%OL_ctermid 9~&-m^6%;3~2&D^.).sL_cuser~'!n~/-=^&)'; FOP^&''D~)",
    "&D~)!5 1^-%ScFILE *stdin;~1!7out~2!8err^+%22~%!a~&!)~,!7out~'!*~,!9err~'!*^/%tDemove^0'0Hfile^&(HL^5%45r~%!A~0!Yold^0%qgnew^9%uAATFILE~3%'a^)%9>oldf~1!|~%%6~&!D",
    "newfd^/%_m~6%K^:(mS~)*PRENAME_NOREPLACE ^&&JU0)~1!GEXCHANG~(!F1~2!FWHITEOUT~'!F2^0%Bz~(&h2~W&i~2&j,^0)Foflag^4%GE~/%Yfclose (~&+:__stream);~),T^&%=L_dealloc_~&!",
    "T~+A<~3!B~/!9 (~&!:, ~'2M~=5Q~-,ztmpfile^*)%c^,%?1m~&%D_~9%Uwur^,%,f^6%Xh~(&x^*%Xj~'%E,~'%F, ~'!4^&%V=~T%R~0Ts~(&R~)%'~>:F~,7p~4'F64~*'H~V'I^.&(l~&+,~'4u(char[~",
    "(5,]^,%ek~%!d^5%W3~3!p_r~&!r __s~;!v~Y7O~-,[~'%He~(&=~--[dir~0.Bpfx~''f^2%M0~+'nwur~1'tree~:.5flush~5.5^7&%D~1!d_unlocked~3!m~:2_~6/nall~'*S;~GA=~18<fopen^;'D4~",
    "(6s~(21~9!Mmodes~W.'~2%hre~P%j~A%l~*!L~((H~+!F~'(S~[1<~%'p,~H&*^)%k*~9'p, ~%!x~Y2&~:%z~&(*~L&!~E(*~%!K~:(), ~'%G~(&K~63z~&+c~'&w~,!;~'*6~)!l~04:~G49~'%(~o+)~g(s",
    "~)&P~I(h~D(d~E,f^:'.Z~.%rd~&.d~'=n~1>h~&'.^7%Wq~O8:#^0)S=~421~&X=~&3'~0''agic_~&!E^'&rH~D'T  ~5Y< _~(!4~n&Z~7Yn^''MQ~*p3LIB_EXT2)~0'(mem~&(e~('%s, ~'T&__len~6(t",
    "`~B9A~M5&open_mem~&+(~'<?**__bufloc~)%d*_~%d7loc~b'k~)/g~&h7H~+%d~&bt~'%fw~+%g^,'Vv~s%j;~2Wt^.&a:etbuf~*;q~1.b,~4+jbuf^9):Vsetv~W!z~(2R~&/D~&,z~**]n~2Nr\t~4C8~+",
    "&Sfer~]%W  ~*%Msiz^5''q~(%<line~-&t~*2L~3LN~-?]print~='W~A>eformat, ...)^1&n4~(%.~I!e~,)J~)!c~2!Zs~N%i^0&p,~,%5v~='),~B%0~()-~/j4__arg~2'6v~J'7~8!w~,!t~>'J~b&6~",
    "-']^9'Q3^9%mw~,)Hn~>%z~),mmaxlen~7X-~7)[^C&mg~&!R__ (__~&%Y__, 3, 4))~1(!~X&& ~W)O~]&80))~.LT~99T~-&_a~/*b~.&(ptr~<*e~*&n~q&J2~&&J~/C:~&4m~C&+~*3i~:&4m~c*Y^&&D-",
    "~4%u~K%s~|%q~2%q^G&Zb~%*9d~(&8~8ES~/%z~=0h~(&:~N)x~-'x~Q%b~-'a~N'T~;9Pscan~D9O~I7c~0Ce~%3I~&%2~O!j~,!g~A!hs~P%x^-'>]~.r5floa^&%wt#if !~-1EDEPRECATED_SCANF)~/|UL",
    "DBL_COMPAT^')R-&&~%!:OUBLE~)StS_TO_FLOAT128_ABI ==^&'&T^H&Cf~&)3,~?)4~;Oj~,'6~+10__isoc99_~&%0~62-~*%W~(%V~Z%6~D%5^'&qV~B%:~*Vy ~J%b\t~-%]~&%_^6&fg~-'>~A(K ~Q-a",
    "~4%:~U-f~5!o~F-n~SDR^,%w;~''>~/'O~+!E~/!D~1!C~0!D~(!E^;'e)^)'tb~/F+~;(y~JCo~Z6)~%%M~3<%~1%z~I)a~f%Z1~0%Z~-%W~I4;~hC:~P'g^)&!n~?4j`^0*1?~)2+~95+^)*7/~M5-~73;~'+J",
    "~+2m~6+T`~E4v~5'p~43t~'%F~a+p~8&M~I5i~%4T~6&-~+&!~T%|1~D%|~&6S~',E~(2N~h2t^+(7[~?&U~[(V^'&[|^.%33~6<7~.)s~;+3 ~M&Y~9Rd~97.~I2=~='j~>%0~K8<~f&g~*8W~(7ov~08Yv~*8Z",
    "~)!H~0!G~3!F~1!G~)!H^.%fL~9H6getc^3%%4~+!G~7!F~0!qget~%'J^(%%:^6';|^3&l0getc^<%&o~2%3~+!R^/%&T^E%(4~A%?^0'.5~-dAutc^+)WN~<&'~A!O~1d<u~''k~'!W^I%*]pu~-&K~:%A^='A",
    "o~3(o~J%(~2&A~2![)^C%/n~&9i|| ^4&Yv^;&Ym~0+!w~5,0~.%xw~(%lw~;'Q^2%1:fgets~8a+~&!xn,^;%&g~(5N^&%11fortified~&p_access (__write_only~'832~'*8 ~8>7GETS)~1,6~&%|~.&",
    "/s)^-%2a^J&]1^1%1A~+'9~+)r~>'C~)3d^A%%R^'(V?~O'J^A&ls~?yo~0'i^*%Qc__getdelim~6_Kline~%_O~'A+~6!!~*w)~+!bn~('E~%%.ite~A!m^C%);~1&:~f&8~h&6~C&4~8(Sg~&uc~Z&:~7&9`~",
    "_&'~:w&u~%.J~:=F~;%,~56Q~1!us)^3'-jun~&;>~?7X~(!W~'':fread^5%-_~%m)~-z[~)Io~)!9~=2z~3cf~(%E~%/E~(&R~O%L~B%M~19y^6%?dpu~.2B~BCQ~<)4~H=p~,(H~/>a~F'(~H')~50A~-(O~1",
    "&x~Q%S~H%T~<k,eek~0;>,^*(k5__off~(1>whence^.%%*~)!Nftell^4%*2~0+U~%&crewind~8Et~36w^)%<s^F%kM^=%GG~)&wo~2&x^(%kS~B&w~(!M~%&vo~9&w^,&4G~Ijbeeko~4Vj~-%w64~7%y~+!a",
    "~&!r64~*Ci~,!b~+%C~%&?,~1&A,~'&Z~%!i^3&5w~''p~(%6~-!>~&'>~(!g~:Lb#~L)3getpos~<iV^'%ku~0-vos^2%-?fs~/!u~(!j~&.i~*!p~&!e^A%Jj~1)G~&&(~Cp.~:&.,~(&q~,)B~3*[~%%7~;*]",
    "~4&M,~(''~')]^0%I3~'(>~)%Q~-jt~'!?s~*!?^O%YO~*._64~Q,f~3,O~(+<~9.d~2*s~,!Q~7*u~%%*~4*w~2*s~4&B~*(I~(!p~(*w^.%[W~%3Fclearerr^;%:1~-%Geo^:%:_~4|.ferror~C!W^:'dd~-",
    "%z~:To^5'dGfeof~C!W~4),~%&2~K!b~49!~%&4p~'''~0Bb __COLD;`^=%Mg~%%[ileno~J%R~:'t~*!t~T&T~2VA2~1EL^9%kx`^0%Ixp^4%Zycommand^;%KM^B%H( (p^)%lA~*+2^<(-z~-R(^(%wa~.S4",
    "^.%IU~)Q4~2Q5^0(/;~QX,^6%xg~/%v^'%xi~+%v~U%n^.%SQ^''8Jobstack~/Y=~'!9^'%1/^)'99~'!:~/23~'!9~(Cw^|%>m^/%2f~3&(v~U&)~ap,s^d%<O~=.I~*ci~,1<flock^&%tW~:5N~.03try~B!",
    "Y^1%!M~&%<~&0l~?%>^A&8<~9--~3!=~&Nj^0&9mgetopt_posix^.'8.~->Duflo~)e%~0>dover~,!D~%<-~*c'^5(7]^.(x[~&_Zy^)%]&~2%|stdio2-decl~.%z~.'C^,%6o~%__^F%%]1~6%>-ldb~2%=d",
    "^8*Zc~5!k~+!f~u'5^P(;7tdlib^A&Fb\t_STDLIB_H^|&FM^))4X^F&F>^)**e^I&FV^6&GP~*&R^&(KK~774~8QF8^/%>2SYS_WAI^'+X)~.&mwait^)'PL~4!Astatu^(*5)~(H3WEXITSTATUS(~&!E)\t__",
    "~+!9 ~(!:~+!XTERMSIG~,!U~'!6~4!RSTOP~/!R~'!6~4!RIFEXITED~,!S~(!7~6!T^&(Bj~0!V~(!9~7!XTOPP~1!W~&!8~,!V~(.RWIFCONTINU^&&Fw~*!q~)!:~.!s~)!:~,!u^1&Aj^7%ES^9)Idi^-)I",
    "Ii^,)I0^()I,~+Rsl~%!7^1&Cx^U)K_~&!r^-&DJ~.%-^,*3>^;)1A~+6Wl~/%r^.'<U ~<&)~8&.~3&3~4&4~9&5~*/>RAND^2):r~*!DEXIT_FAILURE^*&Cg~&!:SUCCESS\t0~,!UMB_CUR^(&zQ^&*Lbget",
    "_mb_cur_^('Kr~.dX~8!M^0(*i~(b<~'!edouble ato^1%.dnptr^;%;gpure~%H5^-'j5~4Opatoi~y%,~))Datol~r%1^5(uY~.+N~,%U~-%Z~r%[~0U'~')1strtod^D)PS~&Zk~4t|^&)MI^C(*<^4%H(~'",
    "%_~%1k~&%]f~I%]~;%[~;%V~,(B~,'*ld^P)S[~T'*^0'JCHAVE~'B?6^'+o;^4&pK^&*G(EXT~)/3_Float16~''Z16~G&7~f&5~0&332~T&332~'&332~|&3~B&3^&&Yp~P&364~'&3^=&/F~|&3~)Hs~U*U28",
    "~(*V28~|,n~F*YX~V*Zx~)*[x~|&8~F*a~U&864~(&864~|&8~H*fX~W*gx~**h~J&;~i3[~0;2~&54~E%S~:%M^:)d]~:6h^1'Z2~&%Zu~F%[\t^J)jq~G:(~-io~-=5`~5=5~%&&q~J)7~k&'~5%l^6'c,~''x",
    "q~H'x~o%y~5mx~5BA~;(.ll~h-D~|(0~),-~G,.\t~r(+^J'3?~+I4strfrom~+lzdest^0%2E~/i;^/&0A~'Bw__f~;&%3^0&-m~'%Jf~_%J~&Ek~W%Il~_%I~,Es~D%O~96d~OE'~,'b~%E!~I&;^2&5Q ~*Ex",
    "~]&;~PE/~,&;~%E,~f&;32~_&;~PE7~,&;~%E4~f&;64~a*o~PE?~-*p~%E;~V&=\t~*F3~a*lX~]*mx~c&832x~b*i~[&8~&E;~_&864x~c*fX~_*g~[&:~,F5~L&<^5%K<^D)O!~6Ey_l~dPT~,;5~'!Q^,+Bn",
    "^+&R[^0(V14~FF8_~IF:~=%x~)!H~+&(~0%|~;=K~(&(~KB9~H&2~L(+\t~k&*~?BN~H&4\t~C(C\t~d(B~4eK_~eN4~M%X~-A!~,eF~F%W~DJ1~Z%_~3ee_~jIf~*!I~S%p^''Y1~,By~9eU~K&*~D&(~R&&^0+",
    "bx~,:|~9eP~|&.~e&.^*%KC~1eK~|&.~e&.128~;eF~|,O~k*LX~;eC~|&5~k*SX~;e?~|&5~l*ZX~=e<~f:[~R:O~-&.~6B=^K+sN^9%&I^-+r,^&+ip~(fX~'&U~(E!*) NULL, 10);`$~1%=~(<-~+%Cl~C%",
    "C~H%<^/(vp^+,3-^,,O2~3%d~4%i~J%j~C%k~4(w^K'7m^4(bH~&%7l64a (^+%l6n^:%FE~)!Ja64~1&Ws^]%+!^9%3%~F&O#^.(nR^)'az`^5%nGrandom^3)xD^,%I-s~(!J^/'EYsee~.!Y~0'zin^&%<de~",
    "5!b^*&v|~%!H^'&vu\t~*Mqtatelen~6Jm2))^5)|o~'%?~0%*^L))D^)%uy^'%O|~&'%_data^,%9s^&,H8fptr;~.!6r~2!6~%%V^+%:Hand_typ~0!6deg~/!5^'*-w~+!rend_~'%0$~.dm~'%|r^)%R4~+&",
    "4~/3v^,&|9~)%)~-!Fresul^;)2.~1f>~*%N~5)n~6%fbu~<S,~1%4~)+'~9%6~36f~>+4~&!9~D'X~<%|~/L1~%'7e~*&%~?%h~'JP~c%U^0)0?^5%RWrand^9(iM~*/w~B/u^:%W<~/%<~1)(*~1!t^['JF~.P",
    "Qdrand48~1&[~.!Je~(!J^3,U|__xsubi[3]^E)>0~)4'l~>%I~)!Ln~G%K~Av7~1%'m~H%Pj~r%P~**[48~-9wseedva^3,%g~3%H*see~:%gseed16v~D%i~,%glcong~9!|param[7~=)f~66L~'/(~'+?~.6",
    "L~6(&[3];~:!Cold~A!Gc~;!?ini^5*v/~7[x__a;`~'6t~,/-~(&K~*6v~,&_~21ffe~+Xp~'.0~S6z~+%Qe~*%Q~=+t^1)C1~|%|~.8z~,&%l~_'S~)(_~5%U~C5k~+%Xn~|'Z~p&*~-'dm~|'d~Q'dj~|'d~|",
    "'d~'AJ~&&,~24E,~8%q~&%f~MAM~&4m~9'?~*4o~)&g~>%K~JD.~'5;~9%J~(5=~B(i~B&s~1(3^&(ry~%FKarc4~-Le~0!n^3%sz~*!X_buf^*&Cbbuf~/wi~C:=~=%f_uniform (~+!C__^&,&vboun~7&*~1",
    "CU~,&9*^&&(h^&,bS^2'Hi^5&);^2&mG~&!<~%!j_^6%Z4~&%<c~0%<nmemb~A'O^9&*m~6%M~%)c^.&QK~-%Ur^(&+K~())^2&G*~;%Swarn_unused~'/T~>%b2~2?wfree~-%N^?)tt~8&=array~8&C~P(-~",
    "4&S~B)k^&&)I`~*!J^/'o:~|&2^/&0q~,%&, 1^=&O/~+Y(~&!Y^1)E2~<Yk^<&06^)&h!~2Ki~/'.v~|.N^D'AF~-4Wposix_memalig^)'_;*__mem~.(l~%!Ement~N2_~=%d^&-4v~/'B~%%7ed_~0'I~J%P",
    "~F0a~%!u~('a~C,k^:%h|~&6:bort^<)uK^7-M*^-%mmexi~'!k (^'-N,)~'!|~=KK^5%t;11~2+bISOCXX11`^5,/.~'%]\"C++\"~'%e_quick_~<%l~1(Qsm (\"~-!b\"^3)e0^2';:~F%=~:'.^='7S^.'",
    "abint on~7%7~'?*tatus,^)&Yn^&'*j~,!1^J%jv~-*T~&%D~,%3~L*[~U)l~.%O~,(4~W%U^=%SO~-%;_E~g%6^2&t;env~1ql^,(:H^G%uy^-'rX~(kUcure_~;%2~Q2w~Va.~%4|u~'%T~)m5ring)^P%XA~",
    ")6)~/fU~7&[^0%Q!valu^)-ZEreplace~BJE~,%:uns~S).;~=/I~,%.^&&P]^3*oV^a''<^F)au~3sgmktemp~*)2templat~H&h~=vP^<)iF~'!!^=&g8~,T1ks~:%z~6,S^R&fS~'%3,~3%4,~(%Q^8)q]~*%",
    "F^1&eS~(&6~)!i^3&e9 ^D&]W~)!g~O',^:&_n^-*9'~N([s~2%S~(.Lsuffix~'z)~r(ps,~E%G~+ri~(!]64)~S)/s~+!f~b)1s~4)2~2&4~?+/^E(Z4~4/id~P/j~=FG^*&yd~K*ao~7/B~(')^)(KO~m*Zo~",
    "8/P~.%C,~)%p~V/a~'&T~*!k~Z*Ro~9/d~J'L^,'>B~Q(r~E/V~.%Y~A,.~X)1~F/l^)%TT~6)Ks~])Ls~,!m~c)N~G0(~O(*^='Hhsystem^7&gT~+]k^:(:%~&!Xcanonicalize_file_^4([Q~FDO~>Up~-Z",
    ",~aE(^-%:g~/&Krealpath^<%C;^-(Bh~4!Fresolved^;&oW^*&KtCOMPAR_FN_T^,&Hp~,!:^+)bj~%Nucompar_fn_t)^.'.g~(F+~&!1^+%!k~+)A^*(lj~+!o ~&!/ison~%!3;^=(FW~,!n~/%hd~C%j,~",
    "*%r^6(9(*bsearch^0'1Dkey~.!q^*%a/~'nQ~<bw,~/&q~(!1^7*>p, 5~8MY^C&_flib-~'&A^5&ds~&QYs~)Yc~)&G~?&>~&&i~7&D^5%aW^8*ki~*%R_r~U%T~+%Vd~.%X~1VO~5%j^4%6S^(,!) __x~<SO",
    "~%*.__^1'c?~)wgl~%!q~+wv~O!v~5UY^D&MLl~+%H~-%M^A'l0~1%R^3(]5^&,&Z^(,&V ^,,&Q^/,&L~T'd~&%,l~%%-~+&5~'%2~+!5~X%7~L(%~(%]~+%_~1%e~(;o^1%1;~X%r^B&zJ~FS9~>nA~27Tecvt",
    " (^)&.'~-WDn^'-,l^2%)Bdecp^(&'y~2!Bsig^7%KU^&(;_^3'?%~&%_f~|%_~V%_g~D%_~(:g^>%E23~?KN~-s8~&!zq~&(o^.&2x~4%S^+(L[~4'=~8'8~;&(~-'=~.%hf~|%h~a%hg~H%h~S),~/6Vecv~%8",
    ";~v+|^?(Pe^,(Xn~:,O~%<s^.'6E~|&,~r&,~,&-q~((7~|+;^)(IU~7&:~.&5~>+k~2(Dqf~|&9~|&9~5tq~%Opbl^2'8z^9(Ys~.!atowc^+(_i~-%xpwc^A(?0~F%5wctomb~+p6,^+-,O~%!-^5'1!~'%(mb",
    "stowcs~6%y~&%z^?(,x~6%y^,%09^+'8fread^)'8e^-%<9~'!kwcstombs^:(YM~'%Z~9()~.%c~-*%`^O'l]3^6';*~3&?~6ik~+)%rpmatc~4R%pons~KdB~fp7~+%hgetsubopt^6'iaoptionp^0&q.~&&=",
    "~.!Otokens^>&qY~%0.p^?%B), 3~5Gt~4hTXSI^3%2Mopen^**[woflag^D%3D~.W>~,'Lrant~*!wfd^9';*^&':C~:!O~.;Cpts^)-cU~.!Q~Ej<~,&u~&!p_r^-(Q-~*;z~+-=buf~>3E^&%2l~H-Q~%)+;~",
    "1+)pt^G(*h~.!Zloadavg~+;7~'!5[^)+T1nelem^M&h'~WJ6~.%nttyslot^9%%*#~5W%floa^*-?o^X':j~6X-^.%><^;(RN^y'>5lib^1'>6^E'<Dring^C+TXTRING^-+dN~'!5^|)b+^9)b+~*%R^4'<i\t",
    "^B'<O`^;.p>(^/.P&4, 4)^&+k7~'Qd^(+9Kclang_prereq (3~%>B~.faRRECT_ISO_CPP~)'V_PROTO~8d>memcpy^5's2^&&MF^9'qzsrc^3'ws^H%bD~)%M^&)Ls~(%.~4%Csrc~:;[~7%5~PlF^1(,.^(,",
    ":k~1'S~g'T~'2L~3&Q~:&P^C'Uq~8d+~)&6se~+gD^)(0]c,~C);^2%csemcmp~0k%s1~1)92~=)8^>&.6~+)L~*!!~-xV~&%Weq~|%Y~1%Y~)8L~?.F^,%G+`@~2*shr~B(_~&%u^1%G9~&!e\")^D&1|^/.Q?~",
    ".%N~/'F~|%T^.%tW^*-wR^*&9Lalways^(&7m~&%c`~H'K~)Hp^-.12^(.Cf~(!l~%!f~%!b__n)^..2<~.%N~,';`~N'Q~Y%Z~(vN$^''wC~5*U~X)*~B(q~;DG~*)3~L,p~'%vraw~:)?^7%Os~)!X~O,_~&%G",
    "~,'H~+%M~8'b~k%S^.%QZ~]%N~E%9~(OG~](nmemr~b1Xr~I'E~)!j~=S3^(&HZ~9)L~)&-~c27~|&3~4*,~d&.~t%t^6&77~&Okstr~%>j~3Ym~,>j~4Z4rc~EAz~0%=n~=%>^C)2|~UCR~1&qat~|&q~6&q~Z%",
    ">^4%/)^L&,xstr~+B?~)e)1~0%Es2~X?S~.%;n~H%<~hA|~/&e^3&QR~v&f~'&1strxfrm~D,I~P,J~:Z:~BIH3~2f:^O.Fe~2'|_~F(%^/.>-~R(3^0+Zm~.(7_^1'4W~/%P~.'r~%k.^6.?n ^2&IE`~74*~6(",
    "0^K%w5~9i9^++?C^6(X|~8Q2)~214dup^M&Ws^+%ss^:%l]^U([.~AS=~*3=~4&-~%[p~H0C~C&>~2&;GNU^5,yN~*YC~&'va(s)^1.i'^A.mX^&/:W^4.hu~.&eold = (s)^5.iJ~,xw = str~%x;~%![) + ",
    "1;~3%/~'%)new =~(-R)~+Jo~%'Sa (~&yy;~1!h~)!W~([e^'*'q^'*(I~*![~-!]$^.*f;~')Ua(s, n~|'j~T'jn~*'k, (n))~e'l + 1);~0!k~%!e[~%!E] = '\\0'~5%u~[(?^2&m=~VW,~*?>hr^-%%",
    "P~>Lf~&!U~UVw~/%A^0%(i~o%G~NVj~&%S`~;'0~>U!~(!_~(U!~DVV~0%C~8'2~T%I~7VE~Y(P~SV7~b+g~S+h~e+i~Y+j~|+k~+*I~[+l~]+m~d+n~T+o~|+p~oa,~,-rnul~R3jnul~[a,~2%M~U3v~K%S~.W",
    "|~]%N~Ja,~1WA~*ICcsp^4%;W~0MFject~cP;~*%D~E%Caccep~Y%C~k3hpbrk~-+f~G%v~(*Apbrk~D*>^.&Z/~/+n~'%S~W'T~W%Y~X40~G'U~B2n~&!n~'2n~'!Y~M4C~M'Y~Z%_~A4U~a)5~E(|~s<Zst~+9",
    "Hhay^&(V>^1*OLedle~:+=str~d,u~&%X~-%F~|%a~i,z~M'b~B+D~%!t~,!n~)!b~M-.~S'm~c%l~A-:~g)S~M-A~2Zutok^R*)3delim^C&Bg~.%;~%Yotok^8'-[,`^=*GW~%%D~'!H^3%Ivsave_^>(+o~(d",
    "I^:,Zt~,'<~9%z~D%v ~,U2~[%|~9D=~dD<ase~i2b~'!p~R2f~6DV~)%i~6-=^*(*f~|%x^+'4>~5D|~?%s~p/5^<&=O^.%Nw^*%?d^*&1N^(%!q~*%n~)_S~(!6^2*2k~(!Y~&&3~,gx~%!4^4%OV~A&H^/&jJ",
    "^;%%S2~G!N3^(':q~/'&^&&f0^=%Ac^*%[i^7%Af^O%!Q~0(R~B%M ~3(>~a%R~;Kc^4%f=~TLy`^8-F<~1%An~4%B~0nt^&*8:~]SZ~28P^'))E~&O_^'0(p^+%St^6&X,^)&B4 ^Q(r_^=,u,^.&A9^'*'D~'%",
    "v_^)'Yp^00;_^<%Z(~(!X^',jf~)!s)~0:X~7-n^3%Z/^+);N~-&2~.%0~N%y^A%]&~J%i~+pD~(%X~0%l^1+2Z~7*>~s&>wur~M(3^+'az~/5F~6I)~%&.desc_np~+&3~+,N~<!_name~9!_^H&Q]~6'p^10Dn",
    "^7/DM^F&z]~&0C^/,Fc^'&mKplicit_bzero^6*Y4^:%Pv~'-+^P)c|~2&rsep^6%mG~&&4p,^B*A/~AFh~6QP\t~A(c^<,z9~I+;igabbrev~+*T~/!p~7![descr~9!Z~),r~2I<p^|%<u~.S)~''L~|%<~)cl",
    "~3&[^B%>:\t^o%>5~0&n^|%?g~Q,7^1,q6trvers^|%=:^8%BEfry^L&sl~2G3frob~X1U~5EP~&1Q~)F&;^+&[pbasename~'=u~]Nx~(!q~*&y^)+7w~6Lc~(!U^4')2~9NE~+%5~-)<~]%;~/=q~H%7~:)P^<",
    ")VV^00G53,4^),!J^X)3x^1%s[ring~*7h^4+MO^C%sktim^C.&|TIM^+.&y ~'!3^K.&ws^P+Ul^1%wW~&%y~5!=^&+S/lo^),f2~4!Dtime~;!C^(-Hom^<-M=^8-Hb^''7W^U-Iu^2'gX^:-GS~%&bid^6-GR",
    "~*&er~<!E~'%ai~%!M~(%c^*,_fevent^?')|^o-OA^I+Qc^?%Io^='<H^)%<M~%,6UTC 1~+-M^/..6~(0L~&+!~&!+^3,W>^9,xR~(!h~&+F~%!* (~'!0*^&,t.r~4??^('l0iff~-!X~&!W1, ~-!30^K&Rf",
    "~+%3~'!jmk~&%1~')xtm~%%lp~-GM^6)f%~,Pz~)%c~.Q%time,~2&q,~'&4^,)eX^)&.z~.!i~('*,~B'+^?*(R __~(!s^&'%1a^B0Gw~7&Q~&'Z,~2'[, __~&!A^6)g,~%(<~(&y~+!;~))j~,%v~+!D~'(z",
    "~*%,^4&pv~1Xq~'*i~6k_~,Xr^))v>~9BB^+(R8~&!H~-&y~+!M~-*g~3/H~3A!p~'%z~9Cm,^I*mG~0(f~--E^B*k!~8'm^,%U0~D'o^I)V.~A's^>(T%~;oi~5(3^=(:-~Asv~4(0^2%Ws~5%q~<3S~)(D~*%)",
    "gm~,*8~<3c~3!d~%%_~H!g~E2b~)%**~004~&%z,~8%7, __~&!G~,2o~-'l~.!w~)&5~:!z~'rJ^'./l~:1C~''m~*%Q~+!?~*'I~-!n^E(:2~%>(^9%YI# ~T)i_r~2&l~,-1i^(&jy ^*'iO~?1P~=*B~N%?~",
    "I%C^:'-q~M*y_r,~E%o~>8v~.!!~;&9~D!p~**n_r^,%ku~9&D~+(9~?&G~O&C~g&F~+,q~%&I^3'11~)+l~,&w~,!E~,*t~+!y~/k)^<%yAasc~,2&~:Ad~<3n~-!yc~G2z~E2y~(6/~.)Tc~B2tc~:1k~&%q~)",
    "!G^D-u3`~8']~*/A~?9q~38O^0+Au~M(/~I0h~&+A~B%M~c(_~r0X~7&)~+)U~'-]~4)W~%-4c~+-X~/)[~6-1__tzname[2]^/)o>daylight^2'*x~&&Szone;^E*!,~+%0~/bytz^)&ET~6A7^L'YX~+&7~:&",
    "5~*&3~+HK~*XVisleap(year^&-8b(~&!/ % 4 ==~&[k~*!7100 != 0 || ~*!M00~%!O^'--9~8&>~R;J~2Qjgm~=P&~F9D~;P(gm~7MP~&!A^8*=<~'%m~*!K~;4t^5&];~NTr~%60~|S1~)%/~FP]^5()O~",
    "%+iysiz^)&dk~&*S~(Uz~>RP^>*&>~'_F~:C.~-%Vnanosleep~05F^--Pyquested~%);^1(/a~.!Omaining^0&/7~&ZTgetres (~)b' __~&!=i^*(Pz~.!ws^8&sw~)!y~':F~I!zt^9&lK^4'g&~&!rs~>",
    "%5~9'e~B%;^S'O+~))0,~L)1~LBY~5)M^;-Vp~)%c^:*Em~'9X~+*-,~7'u~LDi~7*Y~=!j~(%9~&%U~J&,~(AN~;+9~MFz~/*M,~,%j~'0q~>&A~.*r~B&=s~?&=~,*u~i&Ds~V&D~36s~*2(~-+?~,!G~-17~0",
    ")c~5!M~(F:~.(G~2!Os~/!Os~,!O~.8M^0%/C^,%>:^H-hu~&%3~,4u~5)+^+'X9^/*:<~609~1TK~./j^X-hR~/&(,~F&)~J+/~>&L~J!n~7&q~;2W~/&S~*mw^5-h>~0)1~8!g`^5-hJ~48_cpu~''s (^--hR",
    "~*(1*~*(2^5%5K~,%'~%Jg_cre^&(o3~54T\t\t\t ~/w|~/Jlev~'ea~&!v~5Kx^6(rf~*%Tdelet~'tKr_~8![#~F-Y~&!k~);(~1!z~4-T~-+)~*|! ^3'-3~'!V~A!Po~%!Q~>&ug~;%w~5%/~&!|~0n3~FH",
    "X~469~-'R,~C'S~2.Y~A'S~,.D~A'S~</B~'%e~+6x^0-X5~4&Vg~;&V~M8]~;(c~?==~-%X~<LQ~*,4~1&j~2!Og~/!Og~<7d~4+Noverrun~>.L~6JE^*%.X~AMt~(%Bspec_get~*Lg~,<[s^N)fp~a,r~(%Y",
    ",~E%Z~D)Y~(!w^3((!~9)k~)'4~0!j~>RM~ZUZ~0(Y~%Md~P(]~l(L~&I*~6%M~Okq~W)'~(I%~?(r~&Cw~1!_~IWJ^4'tH^4'B]date_^&,W|~.!D~,u9~&!K^6%c3^C,F?~7%Er^<%&'~%%*~2U%~0ivresbuf",
    "p~+%T^4%?A"]

end CInspect.Includes

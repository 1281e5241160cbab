import CInspect.Text.Packed
/-!
The system interface headers beyond the C standard: the operating system calls, file control, option parsing, directories, the system types and the feature-selection header.

Each entry is the full path of a header and its text, reduced to the
declarations and macros that programs can see.
-/

namespace CInspect.Includes

/-- The system interface headers beyond the C standard. -/
def posixHeaders : List (String × String) := Text.unpackEntries <|
  String.join [
    "/usr/include/alloca.h`~1!!#ifndef\t_ALLOCA_H`#define~*!5\t1``#~'!q <features.h>`~*!P_need_size_t~+!Qstddef~%!O__BEGIN_DECLS```#u~%%H~&%m```extern void *~&!9 (~&",
    "!x _~%%)) __THROW;~%&2~%&1_GNUC__`# ~&%Z ~&!a~%!_)\t__builtin_~,!x)`#endif``__END~(%e~'!8\x00~-'ddirent~4'd~-'hDIRENT~,'h~(!5~;'h~/'9~*!Jbits/typ~((8~%&k __USE_",
    "XOPEN`# ~&%J __ino_t_~&%Gd`# ~*!=USE_FILE_OFFSET64`type~+!Z ~%!);`#  else~.!C64~.!E~%'E# ~((;~2%I~(!Fif~'!Hd~'%TLARGEFILE64 && !~*!B~'%6~)!l~5%Q64~'%S~,%J~-![~)",
    "%L~')W~1)%~-(,~()S~&(-~/&'MISC~-%xd_fileno~*+9d_ino\t~*!;~5%E~()3~(*2AVE_D_NAML~%)=~(&GD_EXACT~'!<(d) ((d)->d_namlen)~-!P~%.p~,!P~/!g (d) + 1)`#~%)P~=%7strlen~,",
    "%?e))~%)>~3&4REC~&&4~<%a((char *)~'%X~'%)reclen) - &~+%;[0])`#~&+P~>%&sizeof ~+!c > 1 ? ~3!<\\`\t\t\t ~%!!: ~:'F~0*]~-.=MISC``enum`  @`    DT_UNKNOWN = 0,~*(,~*",
    "!<\t~*!.~(!WFIFO = 1~.!TFIFO\t~'!+~(!NCHR = 2~.!MCHR\t\t~&!+~(!LDIR = 4~.!LDI~&!LDI~)!LBLK = 6~.!LBLK~%!LBLK~(!LREG = 8~.!LREG~%!LREG~(!LLNK = 1~/&yLN~&!xLN~)!x",
    "SOC~%!N~/&GSOCK\t~'!+~(!OWHT = 14~-!MWHT~%!zWHT`  $;``~*!CIFTODT(mode)\t((~&!, & 0170000) >> 12~+-eDTTOIF(dirtyp~%!X~(!. <<~&!O~*/D~(1[struct __dirstream DIR;~'",
    "/b~'88int closedir (DIR *~%!Up) __nonnull ((1))~/!_~%!Oopen~%!_const ~&-h_~&.a~0!g`\t__attribute_m~%8[__ ~&!8_de~%!4 (~(%_, 1);~46q2K8~1%Xfd~)%Zint __fd~W%?~23:",
    "#~;7p~'%S~'(<~&4u *read~D'y~(2h~(&_REDIRECT~7%%~*!E (~'%1,~.%2, ~'!;64)~%+v~3%D~021~(&'~)!a~111~-(U~+9?~5%z64~)'&64~C'(~3%1POSIX~'(N ~C(Oint~(&7_~*(Frestri~(-+p",
    ",`~(4-~1('~+!Nentry~9!O~.!Presult~4(9, 2, 3)) ~,+Udeprecated__~,(Y~8*&~&,H~1)s_r~*%r~<&k\t~F&f\t~E&a~+%A~))X_r)`~U&u~)&v~/+U_~++W_r~,BB~(*M ~?+]~+*164~>*3\t~1,3",
    "~E'F64~:*-~T**~.;K~,J.rewin~50u~%J.~34|~7CE||~/!9~)Gm~7HC~-%Wseek~0%U, long~'+wpos~<%h~(!t~)!Vtell~L&R~50O~+69~+)|dirfd~K'V~.I'OPTIMIZE__ &&~*!;DIR_~%%'~+3e~%!3",
    "(~%%/\t~*!E ~&!5~8,/~%Ax~*KxMAX~'G3~%!8~-(aposix1_lim~&(f# ~(0TNAME_MAX~%!6~(%b~)!r\t~-!C~).>~2!L255~&!G~(LW~1.B~)KB~-Re ~4Rf`~O52sca~4<o~./'~(1L~01|~.!Mnamelis",
    "t~(!Rint (*__selector)~(%4~/!n)~0!Ucmp~8!P*~%05\t  ~6!B)~764~.:N~I5p~''D~,5n~A'N\t~K'K\t~N'H\t~M'E  ~:'I~+&J~'&]64)~7'Y~16T~(*Z~)!a~76P~/2qGNU~-/N~16m`~3+n64~G+",
    "p ~2?0~?+t~I+v64~++x~D+z~%%K~*(X~8!F~?,(~429GNU~(/b~O/cat~(Gwdfd, ~T'|~m'y~O'w~A'u~7's~&<'~.,?~P/za~+&V~N'h~|0/~|0/~(&l~001~+'m~28H~*+-~+!g~48P~5/Zat64~](%~?/e\t",
    "~P/_\t~Q/X~O/Z~*'s~)[p~H/Calphasort~8)n__e1~*)K~9!H2~)%i~(Ak~*FIpure~%T*~f9k_NTH (~)&0,~'b9~?&7\t~?&6~(!H~)%'~&,+~H&=~18M~*('~+!x~k8Q~4):~*8Q~4KZ~''*~;!E~[);~Bf",
    "A~H+e__s~'tMget~&%pries~*[2,~4/Abuf~&-d~)u4nbytes~&!8__off_~0RXbasep~1&o~-.%4~G+t~*&/~0+z~-&?~'/[~H&F  ~5&H  ~%&J~%qt~4&L~'!J~-%I~34P4~7,4~.(I~/!m~UTB~7)P~*4y~|",
    "'/~F)X~:aH~%?B~I3uversion~E3w\t~|3r~P3r~+&-~s3t~+%)~+fB~Y3|~,(-~-%)~Y],~-!l~D3g~::l~n3i^.%*F^4%!h_ex^'%!l^4%*gendian^=%.MENDIAN^,%*c~(!5^;%*c~0%]~(%7>~45s~)V<LI",
    "TTLE~'%/\t__~-!3~*!KBIG~*!H~*!0~*!EPDP~*!E~*!0~+!iYTE_ORDER\t__~*!0~,/X^A%(E__ASSEMBLER__`~1b'~%1Owap.h>~1!?uintn-identity~&'< if ~,%[ == ~2'(~(&;htobe16(x) __b",
    "swap_16 (x)~.!Hl~)!Huint16_~(%D~/!Obe16toh~=!vl~,!H~4!v~0%r32~,!w32~4%r~(!Huint32~:%r32~/%r~1!vl~,!H~4!v~0%r64~,!w64~4%r~(!Huint64~:%r64~/%r~1!vl~,!H~4!v~2u-~-)",
    "g~>)?~-)n~7)?b~A)?~7)n~-!v~8)g~>)?~-)n~7)?b~A)?~7)n~-!v~8)g~>)?~-)n~7)?b~A)?~7)n~/!v~/=%~44yfcntl^B%;dFCNTL~,4|~'!4~<4z^1%>y~9pB~0!>~'%g>^,%6q_O_TMPFILE~,jlOPEN",
    "_NEEDS_MODE(oflag) \\`  ((~(!1& O_CREAT) != 0 || ~+!?~+%))~&3=~*!3^1%6p~8%A~9%<^-%.(^*%**mode^5%<!~&!< ~&!*;~,%J~/!W~+6z~'!|~%J8~*!D^G%?8~&Jq~%!)~)BA~-!B~%EZ~*!",
    "D~'>g~)%i~/%E~98g^:%?4~'%3~3'3~+%N^(%?4~,%H~-!Z~2'6pid~5%%~%!; ~%!)~-!y~.!T~6P&~)vR~5xr/~&Aq_timespec~%:|~''Z~1'8~%!r~7z%~4%1sta~'AL~(&.S_IFMT\t\t__~&!-~.!=DIR~",
    "'!=DIR~.!>CH~(!>CH~/!>BLK~'!>BLK~.!>REG~'!>REG~+EiS_IFIFO~+1u~'!5\t~,!?^*%FV~*!ZLNK~/!ZLN~(%O~&!?~*!Z (~.'PUNIX98~:'k)~.WMS_IFSOC~0%?SOC~(%A~'!B~)/4~,&|SUID~&!K",
    "SUID~.!>G~)!>GID~5Y1^<%'n~.%cSVTX~'!tVTX~3yqS_IRUS~')=REA~.%]W~)!>WRITE~-!?X~)!?EXEC~/!zWXU\t(~)!||~*!j|~)!V)~/!WGRP\t(~'%b >> 3)~.%[~(!DW~6!DX~(!DX~*!D~0%gG~&%",
    "0WXU~5!EOTH~&!EGRP~4%R~(!DW~6!DX~(!DX~*!D~0%RO~(%RG~(!h~-T7\t~-JT~'1YR_OK`~,)XR_OK\t4~+!4W_OK\t2~+!4X_OK\t1~+!4F_OK\t0~5_r~R1%~(&MEEK_SET~%%&~,!7CUR~%%L~,!7END\t",
    "2^/%>[~-3?AT~.:xAT_FDCWD\t\t-100~,-qAT_SYMLINK_NOFOLLOW\t0x100~-!GREMOVEDIR\t\t0x200~6!h~)!f4~%!f~0Xo~*'kAT_NO_AUTOMOUNT\t0x8~&!|~+!EEMPTY_PATH\t~&%d0~.!DSTATX_",
    "SYNC_TYPE\t0x6~<!HAS~%!1\t0x0~7!KFORCE~%!Q~&&c~5!IDONT~(!H4~1!HRECURSIVE\t~&&O0~2;)AT_EACCESS~*'v~,)H^.%E%TIME_BITS~%We~G]Z~%B<~,b-~&!-cmd, ...^V%,:~%!|,~;%!,~&",
    "%G64~6Z;~&%g~'!G~2Z/~FZ.~'!e~A&V~'.q^>%Gn~4a7~8&crequest~'&g~'_b__~%!S~%=:~%&t~A%(64~Z%*~').~-%1~,!G~?%'^*%fJ#~.(g64~/!p~0!E~2!C^5%_w#~G+sopen^0%.[file~(&0~%HH~",
    ")&.^P%MD~0,4open,~H%=,~%%n^L%ML~%&F~&!X~0';#~D,M~&!a~]'2~3l7~'6,^R%;Dopen^*%/Y^2%'l~7%i~2'R^X%9P~&%P,~M%Q~%p6~*)7^3%+G~7k(~'&k~(!Y~X1j~(!f~o']~2.0~H..creat~6*x~",
    "'Q]~&QK~g.,~%%:,~E%;^+%0F~%!Y~0(v~6./~&&G~'!U~U.1~'!b~Y'5~*R|~)R[F_LOCK &&~0L3~(J0(~3Bx_EXTENDED^&%jP~)'2~.Sc^)%Xh))~+/:~)DVU~%%I~+Az~'%[ ~+CUF_T~%!72~-!6EST  3",
    "~K03lockf~7:>~&W6__len~V/g~%%+~8=!~*VN~&%0,~&%[~8=0~&%|~'!G~X/B~'!e~:&m~+%b^?%!j~'Hk~L4Mposix_fadvise~,%S~((9offset~-(J~'<V~&!P~&!a~-;i~%'M ~2/L_NTH~<>,~-%]~-(x",
    "~,(m~'%d~),J~/)1,~.%k~(>Z~-%+~8)N~.'4~/!W~X)a~/!m~/(6~.&P~.)p~(&6~;(<~,5*~P)tllocat~I)v)~<)X~8.E~/%:~H)R~1.a~*5H~/!x~A)G~(&b~1![~c)K~)!o~L)M~5:=#i~)).ORTIFY_LEV",
    "EL > 0~._Kfortify_function~%m( ~.!Hva_arg_pack_len~1e(~%G.2~+f'^D&0S~*ot~<pkEATURES~-pn~)!7\t1~6qS~z!!^'&4Z~&((ISOC11~2!799~3!75~2!7XX~0!e~%9]~3!62~3!7199309~6!",
    "<506~.!<~&dJ~2!6~);O~.!?~&g=~3!T2K~5!8XSI~5!;~6!j8~1!S~)-A~7!:64~.!<~.1a~-!>~&ai~,!5~(],~,!7DYNAMIC_STACK_SIZ~/!D~%Z|~-%B~,-t~*!>KERNEL_STRI^&&-YES~*!AGLIBC~))q",
    "2X~4!=DEPRECATED_GETS~?!GSCANF~+-M _LOOSE~(%W~'%P~*qo~5%r~1R%~+/p^&&<S~.0,~%!7MINOR^,&<p~'!;PREREQ(maj, min) \\`\t((~)!p<< 16) +~/!n >= ((maj)~*!F(min)~3ym~6%60",
    "~-&D~.&Aclang_major~0&H~'!>inor~.&Iglibc~'!Cprereq~-&P  ((~0%(~+&X~-%&~M&Y~=%G~+&c#~*'6~(*D(F)~-*S ## F~*'6~*HMBSD_SOURCE~-idSVI~(!;)~*6+~*HUDEFAULT~'!G`# warni",
    "ng \"~,!yan~.!r are ^*%wD, use~0!s\"`# ~%,n ~3%5~(&h~.!<\t1~2z5GNU~*![~(!w~&4P~2!v~-!;~%l,~-!V9~7!V9~8!V11~6!V~)!;~1!V2X~6!V~)!;~-!V~%5Z~2!U~,!:~3!TC~8!V~(!<\t2",
    "00809L~+!a~&6D~1!]~,!:\t7~%jO~4!V~+7(~5!b~)!D~*&)\t ~,5l~2%J~2!A~-&i~L*a~)!X~&6>~2!W~-!;~.%5~16_~3%A~8!H 1~/B!(~7.1~%E5~&.X~%Sh~+S6~'5DANSI__~&!K\t~./(~-,!~2!>~",
    "*+e~5!a~*+O~4%+~,+?~4!=C~9%+~,*())~e/u~+'f~-&1 ~+'a~,'_DC_VERSION~&66~1!7> 201710L))~-7N~/;D~%%W~07u~0!H0~<&&~)(T~-4Z~k&A= 201112~/&B~*E9~>'r~**f~0%o~**e~,+t~:*",
    "i~-,C~Q&?199901~7&?99~|&?~u&?409~8&?5~+&?~)Yacplusplus^)%Mg~)!5~')Z703L^-&Tn~.)Y^-%n3~3!f103L~-&r_GXX_EXPERIMENTAL_CXX0X~%?K~2%4XX~'%6~8(l~2j6~(&X~1/p~,f!~J15~1",
    "%K~&!CIMPLICITLY~,%U~|9v~39v~+hQ(~=5:~(+'~.+(~,3R~%i-~.!5- 0) >= 500))~(!i~V5!)~<'%~,G%~E%e< 5^-%+6~1'F~%[!~S%%6~=%%~&Q|L~X%+7~>&-00112L~2og~:?w^1%Ev~8+p^0%3C~-",
    "*U~.%.~%*I~0!7~'&<~''&~(H?~.ogREENTRANT~-/nTHREAD_SAFE)~8*, ~&ny~P-0~(%a~.-0~5+q~940~/!y&&~1!6>= 1)~45>~-=A~5(X~.4H ~O%E2~9%<~5%;2~K%<~6)_~&6r3~&+/~2%/~&!?~j%4~",
    "'-u~5%4506~g%4~*.&~-%4~'[T\t~+4S~.b%~59m~6!R9~7<c~j&98~3(]~(_m\t~WJC^/%CG~<+)~%!?~(5%~:6K~19O~.d.~3;C~&d3~&!<~'(%~)MZ~3:P~0!?~&!_~:%g~'5L~;!F~'4i ~7(-1~;!AXSI~'",
    "!D~(4Z~6!M~'!I~4!>~*!j~5+U ~:+W ~6+Y ~9+[~+pp^.%%j~8S0~D)K~/qn~/D6~3)I~-!y~)!D~3Dv~=T/~0iC~8.=~+iM_BITS~%4<~1!8== 64~0%-~-j3~-%/^0%e:-^&%</^2&xK~9PO~)k%~3.d~8/E",
    "~+kH~3!Z~EUk~7ky~3!u~-_v~-!fGNU~9(?~'lK~+8W~/!6> 0~4v9^.&Vx~-!3> 0~'HA~-i, (4,^&&vm~)da~0%;requires GCC 4.1 or later~(BH~2%p2~&4i~3gd (9, 0)~(|h^+&xb ||~.jw (12",
    ", 0)^&%ny~5%73~%.6~8&4> 3 is treated like 3 on this platform`^5'*D~2|&3~:&n1~9%t2~?%t2~1%t2~Z%t2~3F+~3!K~1O%^/%<2~.t&~<!q~=oi~)QQ?~3Qb402L :^/%WS~(|A~4Z:~/th~%%",
    "K~9Zk~0!Q1^5',f#^2%eWGNU\t~-V*~-H)~*&B~(!H\t ? (~,&Z<~)T?~-NY~9TA~%tp :~/dz~-W(~%-F~/!7<~*YX)~B'*~%wy 1~H'Y~&!R~,)Z^-'9Hc-pre^.&ce#~(?w~%2|LIBRARY__~,sE~,!; 6`~",
    "*se~)sS_\t2~1!7~'wq\t36~2t=~9xh~&!u~-xi~,!t~;v1~+|G^-&/E^*%4WSYS_CDEFS_H^-&i!sys/cdefs^&&/W~*'e^2%jm~-9K~/*Q^)%4M~0/H~-;w ~=;R ^.&!d^(%1_~-492, 7)~96w~3wL~*!CS~",
    ")7D~+!BNO_INLIN~-!e~*!C^&%4>_inline~010EXTERN~'!gS~0SX~*+Sgnu/stub^(&7'^4%2Sgetop^8'?-~))]GETOP^+'?,~*!5 ^;&'F~-!j_~&%9_argv_const~,&S~1!A ~'!G~1?=bits~'&1_core",
    "~%*n~5!B^=&;=^&',g~6&w~)&/M^&'8%~+&v~(!5~:&v^4'FR~-!7io^-&;LLIBC~,'1~(%1OOK_VOLAT^/&*:~'!D~*1a~22/~4!j volatile~=!s^9&zS~*+:^0&,z^-'Hh~&()^8'Hh ^4'1A^2&E7~&!<~%",
    "!j_^&%OJ __wur;~0%=c~0%=nmemb, ~.%N`~<%N~=%I, 2~,%L`~0%Pr^('3L~&!2__ptr~F%Nwarn_unused^'''A~>%Z2^1'75~-%Qarray~8%V~6';^6&Fy~R%k, 3)~&!t^,'6d_free~0)-free~-%w^,'",
    "O/~/*uemalign~+)Z~%!3ment~H&F~;)c~%!r~(+1` ~?(L~&**~E&_*v~|-,~=%R~.%Sp~W%T~>%1^'&Mtmallinfo`@`^&%N'arena;~'!0ordblks~(!2sm~,!1h~0!0hd~(!1u~.!Nf~.!2u~/%&f~/!3kee",
    "pcost;`$~&-Q~/&'2~%&(~''4~)&+~'!3~+!s~'!5~*%M~'!4h~3!3~&&7~'!4u~1!Wf~1!5u~2%8f~2!6~/&G^.'<u~(&L~*!,~%.%~,)Y~15]~:!m2~+!-~.!o;~+9=M_MXFAS^+&4X~(!5 ~*It~*!QNLBLKS",
    "~,!Q~&!5  2~2!QGRAIN~,!P~%!4   3~2!PKEEP~,!OKEEP    4^2%=SM_TRIM~%pgSHOLD    -1~,!COP_PAD~'SH~%!C2~+!CMMAP~/!e3~0!CMAX~+!e4~+!CCHECK_ACTION~'!C5~+!CPERTURB~,%L6",
    "~+!CARENA^'%e-~'!C7~1!C~,%M-^/'5l~%/Xp^)%qIparam^(%[aval~-)g~1!]c_trim~+0opad~5!V~'!E~'!Yusable~%1E~G5o~'!]stats~3+T~2%j~&,t~&&Boptions, FILE *__fp~,!e^,%To~6C?",
    "emory^B&I_MEMORY^,%Tn~(!5^>&Za~'!fSTRING~%LF~+CCring^,%Vt~6%u~-P4~;%v~%R:PREDEF~,%|~-!:^3%Vq~(Do_GCC_IEC_559^(%.h~+!6~'aj~*Cw~%%'~'!A__\t~/MV~)!B60559_BFP__ \t~",
    "%Wp4L^1&+'~=%!~I!|~/j'~,&8_COMPLEX~3&T~(!>~>&]~'!I__~>&f~*!K~O&i~.%.~L%-~-ZN#~/!_SO_10646__\t\t201706L~9+:rings~?+6RINGS~.+2~'!6~:-3~*%g^B'qB~9ak~%iQ~0i94~-ZsCO",
    "RRECT~%&sCPP~*%m_PROTO^+%d6^/'o;^8&EY^/%vt^*'G2~+1qbcmp^(%y7~(2ws1^(&&2~)!52~,Gx^W&lf~.3kbcopy~1%Irc,~)!0dest~0%F^5'H|~6%/zero~*5Ks~-!q^<'K_^*%k=~A(g~'%>\"C++\"",
    "`@~(!2^&&%,index ^''kh~%%O~&6%c~2'gsm (\"~%!T\"^C'+K)^*&76^,&&H~(%>^-&&[~q%E~'mT~4]<`~)[Balways~'[I~'%X`~:'2~(%d~%Esreturn ^*'yr~'!]~%!V__c);`$`~9%:~+&x`~A'4~S%",
    "G~)oK$^/&:_~X(R~B(B^.%DF~f+jr~Q+kr~c+lr~W+mr~|+n~/+nr~Y+or~Z+pr~b+qr~T+rr~|+s^.%-/~O7g^:&ROXSI~.F|ff^)'69i~6UM~%&U__^,'p0~'-b^,%rT~.!zl (^+'a-l~?%(~&)Znsion__ ~",
    "/!q~(!r~,!wl~;((~*&*~)/i~+!ystrcase~+;&~))11^0&=5s2~c:r~'%An~L%B~g<E^-&Z9~*>)^6&iclocale_t^-'fc~.'Q_l~G&4~(!r __loc~S&8^''GW~9'j~H%X`^/'8m~h%l4^,&>=^/'10~1vz3,4",
    "~%vy^8&,v~3v:^0&-!^=&hI~8Dk^1'g[~'HS~'%-ied~,zj^=&z-unistd~BRJUNISTD~,I:~(!5^K(9o^9&qs^1%NE^'%*&^+%WQl^6&dd2K~=!d^&%Hb~3!d^,&,6~9!h^*%Oq~:!h309~=!h3~'&:se~=!K0^",
    ",%Z:^;&uH~)L2~%!i2_THIS~1'V~I'W~8!l~Q'a~5!o~+'h~.&|~8!R2~-'*#~-'S2~)!M~5!f^,%.<~'!CC~B!V~3!WBIND~M!TDEV~K!SSW~F!T~)&qLOCALEDEF~'d8~9&y~?*W~%!6~)'5700~=*K~8!]6~7",
    "!]^(&5D~7![50^2%8N~.!F~3io~'!FXCU~+!J~2!CPG2\t1~3!93~5!94~%aU~/!;UNIX~&ap~))-~&!<ENH_I18N~4!YLEGACY^|&<F^1%-c^&&B>opt~4XyU^C'%;~1<Qenviro~%zas~.f2~''*STDIN_FILE",
    "NO\t0~,!:OUT~(!;1~,!;ERR~(!;2~4&?^-(Lq~&77^('R,^3'-2~'!= ~'!+^-'-6~0!Z~)8r~()>~.]l~._*NULL~6_(^Q&x.^.&KFg^7'/T~%!; g^('/T~*&B~.!U^-'N'~'!zu~7!z~%!; u~2!zu~B!z^0",
    "'4h^V'4i^B'4j^3%He~0%I^+'-j~.(0^k'4m~-%J^5(Q&~-(=seconds~6(C~)!A ~*!.~/(M~2!g~4%6^H'6+~*%'p~5)Q~:P.^/&b+~<0C^*(WAtptr^7(U-~&!> ~(!,^0(U/~/!a~KR&~3%i~,%gsocklen~",
    "60M~(!? ~)!-~.%j~2!d^3&QR~'0a^('-(~'!2^('-&~'!2^('-!~'!2^'',z~-K[access^4(Ig~(Uw^&(Ke^=(8g^0(%e~+%/euid~H%3^:'cn1~1QYe~x!|xecve^<&sepath^('fm~&!=__argv[],`^+%(*",
    "~*!!~.!Oenvp[]~(%sflags~&%t^7'ff3^D&vG~,W7~&';^I&v&type~,%]~;'T^+%=y^-&;3~(ttDIO_H^b'3?^;'1J~%!KDATA\t3~0!9HOLE\t4~I/?~,4uL_SET~+I!~%!3\t\t~(&6~,!<INCR~'!=CUR~,",
    "!=XTND~'!=END^2&&=^C'sh~&8,lseek^1&cJ^-&_x~&!?whenc^-&f3^7&uv^,&jK^,&d(^.&jQ~%%H^2'rf^3&dw~.%P~'!W~%!f^,',f~*(u~&&N~'!E^Q&v&~*%P~'!h~N%p~-,K^.(V0^0(YW~*%'~12U^'",
    "'y4~,wv~%!Wfrom~(![lowfd)~6%:~(!a~(CSread~,&C~(xhbuf,^0'sZ~'.I~'0O~)Xx~%[g_~(30__write_only__~'_R;~5%L~%!M~20I~7%S~.%N~-%D(__read~.%D^6(L+~?H|8^>&n?~5&Cp~M'o^*&",
    "lq~0.'~e(1~1%k~O(3~*%m~?%n~H(O^B&|L^2('! (~%'w,~M'x^1&v]~'&.^)&vQread^&'*T~Y(1~<&+~%!U,~>(8~(%y~1&:~=&3~%%)~0&4~F(P^4&sj~%,'~''3~-!<~&*Q~(%=`^M'y?~7-:~.3P~B)?~3",
    "'+~a-9~5-5^4'47~;-7\t ~A%i~H(_^2'4g~+6'pip~)/&pipedes[2]~,E|~%>z~?Eqpipe2~2!n~.Br~0!|~.<W~(!vunsigned~&H)larm (~-!7__~'N?^.%FS~<!nsleep~9!n;^5%tq~/Mu^2'2o^*'[V~",
    "&q3~15b^)(6|~);S~,Px~'&W~-!8__value,~.!O~%N<erva~/zh^3(t0u~'&i~/!gu~*&j~.(I~,)Caus^'%J'~1vDchow^7'F+~(Wp__owner,~)Y(__group~>Ji~,+6~WRN^.%<Nf~'&%~,?[~?%s~1,q~.&",
    "zl~|&|~,&|~=Ku~1&Z~CKs~0%k~(:A~/%r~]L8~-*H^3(b'path)~|)x~4)x^.(zl~G1I~&&'getcwd^*%4*~.4p^0%cl~,3D\t~,3D~1%!_current_dir~%T2^1%S_^6&LN~s1]~0%j~/&j~B,%^6%rM~=7q~.",
    "9S^-'Dz~-)6dup~;)3~0!O2^2'>vfd2^2)?2~885dup3~5!j~687~2,s~&'a*~%Wiiron;~2%A~.!N~*!L~*+W~1Yi~4-l~8YZ~%/N~4YJ)^>%JT^D(rTf~(%ai^/(F'~/%T~6%O~=0s~7*)~%%A~K'%~<,,~(&g",
    "~1%/l~8(2~-!7ar^/'Qx~N%2~|%1~+'Mp~67h~['N~1&?~8%1~Z&A~?gr~%&Re~K&S~(8U~P+U~(%b^;'sG~<m2~,&.nic~)-Minc~;7J~,Y(_exi~);Estatus~.47_~%3lno^&%G&__~((x~0|Fconfname^-%",
    "=7^)%BSpathconf~6+f~&%Nnam~Kjp~)%)f~*%*~03u^():u^0%kF~)!csys~,!a~0!T~-:/^''?D^/%mGconfstr~,!i^*(T&~.;?le^*%Y!~VNf~1)A~(vDgetpid^:%n9~,!L~J!Mgrp~C!M__~%!Oid (~*!",
    "6p~.=2~[A4~4%i~=%:~6PGs~5!],~+&Apg~.&f~N.d~)&F~3O=~)%O~4'x~2:c~(%esets~4)'~gE0~+'xs~F'w~*Ox~(!]u~>*r~)!Le~?!Mg~(!Mg~H!Le~6!M~-(Bget~%J8^)%R3size~,LNlist[~0VM~R.",
    "o1);~3Gb~,%Xroup_member (~+L-~H,5~%'g~*M(uid~5I7~W,*~.%:re~/%<rui~-QJe~4%N^>'c]~.%1e~D&J~:'2~'/D~4'm~v'2~/%<rg~&'2~(!3eg~d'2~D&J^:(hV~/,qres~-(-*~0);*~&)<~-!4su",
    "id~3Zh~1%)~-&!*~0'2*~&'3~-!4sg~A%)s~2&/~6+G~,!3~2&,~+Xs~1%,~D)A~,!3~2&/~;+l~(3hfork~/1lNL~|cn~3cn~&%Uv~3%V~=*k~1;UF~<!h~0Patty~&V2~1Rr~0(]~'!N_r^4(rb~.?]buflen~",
    "E[E~(!G~Rw'~+%lisatty~6&=^;%&(~'&Pslot~;'V~,cXink~1J9rom~0K[to~BIq~6m]~4cAlink~+c>rom~3cC~%%U~&!Ftofd~(Tk~/%i^3%45^;(vy~32B~W>A~./Uym~x'r^6%*x~4%9^+(z-~%KQ~%sy^",
    "7(|0~.I8~G%_~X,U~=iY~2'k^3(-:~6*/~3*2~9Zv3^3&U!~0'z~<k)~5(. ~d(02~+%l~P(03, 4)~6kfun~4*I~-P1^A%Bg~3(u~&%%~<'L^,%Aq~Cn(~6&7rm~Qmz;~36ftc~)On~566~,3acs~0!O~.Mnrp_",
    "~1Hh~2k(login~)vv^2)hB^(%f7~3IP~%!b_r~*kl~&'s~)*r~%8,~'TB~-&y~OIV~%/Q;^;(Sj~/>3~'&N~N*t^/'f/~/WC^2%v[^'&hIposix^.%[-~[4x~0(2host~&<J~7(3~,XM~q(6~7I5~1CN~+%u~3.+",
    "~I57^0&Zh^8%-d~6h6~'%Wid^-&(H~4Kf~2(5domain~B(7~D&7~P3;~'(D~.&C~-%a~|'|~7'|~,%Zvhangup^>&Pkrevok~5j-^C%%%~1(aprofil^+%02short~%!>*__sample_buffe^0&kI~':;~)!7^(%",
    "GP^0%1(cal~Dgi^1%Vpt~=1%;~442usershell~1'k~,k0end~G!Ms~<!y~0&-daemo^)%.8nochdir~)isoclose~:Ur~:U9~4Mm~:Md)^0%+Wroot^W%+X~2(2pa^2%YLprompt^;(GQ~0'Pfsync^.%MC~?Uf",
    "sync^*&6i^6%M;~dY)~)2Jg~*2a^)%6(~-*?~%&9~1*7^R&-g~13Gpage^*&_Q)^6&0Z~&s*^'&7O~30vgetdtabl~-!q~*'V^5'+y~Yi6^J(?Ttrun^&(?M^6%4v^+(?Igth^G%6S^:%Kk^A(FO~(%a^/)Fq~3%",
    "h^*(=Ggth^)%IJ~(!g^3(R8~*%p^1%I1~)'+~*!f^X(?j~*!h~J&6~I(%~.*I#^<&1D~8[.~KAg~I*mf~**ni^3%aV~'&b~14<~Z*L~)%?^9(GE~/*<f~.*=~8*-~*&Df~e*/~+!i~?%x~3'?~306~Xd=^I%:Lin",
    "t b~(cI *__addr~=Cr~&!Ms~%!Y^)%un__delta~76:~1aD~/?3^-%(Oal^.&J%sysno^0(n_~='L~E7G)~-'f^&([1~,zz^|([c~>.+^<([c~-.2~D4P~6-|^Q([k~)ZW^)([t~;-z^|([z~;%s~0-n~6+M~'l",
    "M~*(rTEMP_FAILURE_RETRY(expressio^((AA^-&Q0^''LR~&'1~&.4(@^,&Q.^&'4*;~2!K   do~)!E =~*,b) ~,%E;~3!_while (~*!d= -1L && errno == EINTR~%!d~/!c~)%f $))```~(b5copy",
    "~%7y_rang^+%6W~.20*__pinof^&%cG~'&dout~2!Jout~)!K~,N8gth~1Jr~&jG;~H8[~1/J^'&=/~.EWdata~-E[ildes^8%|K~*1c~-G<cryp~1H2key~0b+sa^+*F.^C%;P^2&T*~14,swab^0&od~+fG~&h",
    "L~3!<to~&.|s^B&o0~%%g^E%c?~&h|^F%Lw^0&'b`~:ET~:86~0(Xtermi^+%OBs~4Ss~'!Puser~.!P~-%_^9%sB~:%_~,T.th~%'Aat~*yp (~%MUepare)~'Hi~(=V~*!Dare~%/d~6!Cchild~(!B~Azm~',",
    "-~'J9entrop^+'CJ~1UZ~*=E^J%RA~5,1~/3o~-Qilos~)0o~0/fd~1/ymax_~&pa\t^?%Q_^Z(e%~1fK^(&Wa~-fE~3!F^)'P=^C(dyx86_64-linux-gnu/^+'X:~,<y~(=(^)&/8^,'Y%^(&Dn~+!8^&&J.~(",
    "<_^,(ef ^6'(L~8,f^*(Y%^0'bF~0!8^*(;r# error \"You need a ISO C or C++ conforming compiler to use the glibc headers\"~+(A^((]4P~+!.MT~*0V~+BKhas~*SK^,(1'~,&-^-(W",
    "v~)8u~%F'3 <^1(Yb+ (5 <=~0!a^/'e+~%&9~.%P(at^&'8g~.%i~&!:^8(Y)~4!i0^1&.]has^(&r%~6!j~'!A(~(bd~+!7 ~&!8~<%Q~.!e~6%O~)>j~6!j~)!C(ext)~0!X ~%!9~<%S~/!g0~7<!~',,~-;",
    "s~&)&_`^*(Cz^0'0K6~.HS^('Ya~*%XLEAF ,~%3:af^/(D(LEAF_ATTR~3Zn~&!S)^4*s,~%!]~6!p^3(xY~5.>~,,U^1&k1 4)^&'m<~3*w (__nothrow~'%q~*%V~%3t\t^4%TA~'!T~'&%~4![NL~<!_~/!",
    "VNTH(fct)~F%; fct~0!eNL~%!g  ~=%D~'!a~*Ks^8'6m~0'n2,8~''m~.03>=^&'7. ^:(Jz^/(/d~&(&noexcept~%_He~&!i^1*Ax~(!Q~%&: ()^8(06~*(C~%!-~.!A~+(-~*+xf~%Bw~6!R~('u~/!H~0",
    "N,~5!f~'%Z~7%R~')6~8%=^7&-q~3/*3~>,Rcold__~.+8COLD~3+4~'!O~5.sCOLD~,Y8^'&kT~.7<^1'xo~)6n^a(Uc^,&R.line\t^)'p6~1%z~*!=~(']~1(y~3(w~8(u~.'%^2&QP __P(args)\targs~,",
    "!:MT~,!<~.!XCONCAT(x,y)\tx ## y^-'DgRING(x)\t#x~-!Z~&[X~&E&`^,%+]~,=I~)!R^+&v]\t~'D=\"C\" @~,!H~)At\t$~27I~+!h~5!X~5'5bos(^''QO~'9Z_object^''Qvptr,~7Dh1)~.!o0~C",
    "!p0)~;Ef== 3^N(1<\t^;(17~1:hobjsize0(__o~,%xdynamic~.&(__o~%&(~8!m~K!l1~9<N~1%dos0~%!Y~D%Gos~(!N~+=)~7Ij~/,O~&!xsafe_len_cond(__l, ^''6Zosz)~&<3) <=~%%6sz) / (_",
    "_s))~1!q~(Ku_or_positive~&!e^((|Mtypeof ~%!8) 0 < ~1!8-1~/[;|| (~*(2~%UTant_p~&!U~'*Rl) >~%)p~8&_or_unknown_len~2&f~(%u~6%7~%!G~&%9~%!.=~%'5SIZE_TYPE__) -1)~2&1",
    "~:'?~&&0~3a*~%46~6%V~3)/~%&/~-%X~%%',~'-F~)fP~%)1,~(&;))~5%F~M%/~0!x)~5+3un~(!u~7(F~G'K~,&)~k'H~*0q^'&J8~)%l)~0%>!~O%)~,!r~5'<~'TC(f~%Gy~,!U~'p/~-'B~3,B ~1'x~.'",
    "K? __ ## f ## _alia~%0XVA_ARGS__~1(':~-(_~'&e~5%5~/*g~.%9chk_warn~-%<~6%v~%%E~/!c~5![~>'o_n~|'q~|'q~]'q~04e~Q'z~0!g)~06q~/E>3~-7gwarnattr(msg^/&'k~%b:^&(FK__ ~%",
    "!E~.:d~%YDdecl~%Sx, ~%!j\\`  ~,jJ^.&;6~/%.~%!i~,%,~0:2~-%r~B%L~7%H~;ig~NFG~/]SHP_cc~,%gflexarr\t[]~2;yc99~(!D_available^&(Bz^4(<&97)~8V!~i%A~0W=~7%'0~O%(^/'9Z~)",
    "!n1~J!n0^4(I?~/bA~*dQ~)!/>= 2)~';2~4Ra~,%O^(%%7~'*hproto, ~%0:)~&*e~%!6^&'W.__ (__ASMNAME (#~&!K^++QW~-I;~2%4~%Kk~4%8~'/i~-%?~(s1~=%H~6%3NL~O%5NL~A%7~1Nx~V&O~:%",
    "2~,TV~d&O~C%5N^5(wI~'!S(c~&eI~*!52 (~%GiR_LABEL_PREFIX__, ~&!O~3!l2(prefix~(!G~)P< ~'!<)~&!<~+md~*&n~'I!~+9N~0!>^-(Jd~*5r~7!p_NTH~;!t_NTH~/(B~/.T~/o1!(~Fg*~-'?~",
    ",6&xyz^0*HD~33+6~>YH^((6f~7%5^5(:U~&YW~)!a~37J~2!h^.'&W~5[H~6!h^,(9u(param~',3~2%e~,!O ~'!O~=%p~4%+~B&!9~>(!^-(=y~=&P~'!H~&%I~>&P~'!O~&&Q~E&P~.%+~e*R^&'Xu~7&J^)",
    "'Y:~0&7~'!Z~=&*~&!H^?(TT5~Ado^&%N+~6%1~'!B^<%Ng~<%t~'!I~<CK2,7~>%t^'(Gs~:.Aybe~)!I~3&!~)!g~?.G~,!n~?)w3,1~?&/~<&-~:&%~)%|~4![no~&g,~5!b~*!A~>&f~F'N~>%N~=+G3,2~>",
    "'B^,&]s~7%:^/&_>~0&%~-!i~=&l^6(T_~72&5^+%IQ~5zv~%2+~4%+with_message~E&Qmsg__~&L5\\`\t~?&a~:K4~A%+~E'1~80k8~>)Eformat_ar~::N~,!G^&*fk~0&e~,!F (x~?&c~/!w~1ME~8K]~",
    "A&?~?&;strfmon__(a,b~87O~(!r~%RO~(!U, a, b~G&R~.%5~0&X~'AF~,.knnull^'(kv~2.b~?vy~)!f~.Hh~3%/~)<z~41Q~'!H~+<s~2HJ~;!|^:(wp~'!O~,'Z~'!6~5%c~*%Z~6=y~'%%^&&Z4s~+%-~",
    "U><~/!m~/*n~/!B~3'b~2!g~+'c~8!o^9*%C^2'tb~<&7^4(a1~7--~4!O~&3W~2&O~5%&)^5(s3~-qU^:'ve~-*r^*%xb~:%n^:(DW~A!]~0+Twur~-[Yur~b9.^-(/W__~&qh^))7x~-!B~-&2~,!<^)%'G~5F",
    "1~.%/~*1N~X%3~AHm~?1;artificial~:Hk~+!G~4&N~,!i~>HU~+!N~2Zh~%Zf^5%7L^2%!S~%&S^5)]E~'PO^/)*T~%!d~%c_^+(y7^-)2w~/!PGNU~)!O)~2-M~3!w~.R,~5[=~&f'~()A^)&7S~9*Xgnu~-*",
    "U~2!r~.*>~+h]~2*Z~B%,~16H~=&*~C%a~6%Z^:*A;~4!l~-e*^0*4s~7%H~D+J~DmU^+*5i(^,%*b~+!;^&%9]~4!V~%yh~7!Z~&q(~2?X!^8%<A~>Y6^+%d2~2Z1~2AX2^8%=?3~1,k~NmX~-*:^(%[,\t~(!,",
    "~4+5~,!?^1'Ah~%0?~9Nw~3&8^;%Ob~1%B_arr\t~,%Q^/'Xc^),IO~6!b^8%Bm~R'X~7%m~+'A ~(n;~:%[^:)KQ~)'l~('K~/6C^)%N+~*,*expect^3%2Uunlikely(cond^,,LX~&!V (~&!<^6%4d~H!b^:",
    "%4W~/%N~&!*~?%7~(!I~,'7~**MN^''!j^5)dL~0)5?~2!6:^&)e>^&)w3~+!l~2.P4,7)^,%U5~&8D^O%U8)~5FL2,8~-6P~)&P^>''Z~3.k~(!a~5*u~/%F8^'%<R~8W0n^&(<+~7X]~)!B~><p~+!M^0%Z4~/",
    "_upy__~4%z9~'%z~7aUpy__(arg~4M,~&!B ~%!C~AbI~)!o~8+AStatic_assert~820~t+a(~3+a 6^:%PR^/%_5~,%S^+)u0~-_,~-&T(expr, diagnostic~(!y^+%i%(*_~.!Y~*;c^(%kR~(%V[!!^(,N",
    "2^')%+@^'%i;^&%+3if_negative:^&%xB) ? 2 : -1; $)]~5PWGNULIB^&%ff^1%hxwordsize^4+OZlong-double^,%fp~&+MLDOUBLE~)t;S_TO_FLOAT128_ABI == 1^4*i'`~-7ILDBL~&!?~,yB) .",
    ".. ~(daldbl_redir~7!b_DEC~&z-)~.CX^(%BV~&!>~%z3^'(Z=~+z+\"__\" #~%!A\"ieee128\"^''_a~2w=LDB~:|D~0|A~3%6~%!R~,%7~9'72~B&R__##~(zo~&!-~'*z~K&c~8%M1~5&c~6(l1~8!k~*",
    "&<~-'N~O(u^(%'%;~9&&^=%)E^0&8k~3!L^9%)5~>)p~1%T~/%,__#~&&7##~'(F~:)o~0&>~8(>_nth^)'m-~/4H(0, \"IEEE 128-bits^&&-e~&/J^*)bW~%!pe~&1e^0)[L\"^.+,.~-C2LONG_~'0)MATH",
    "_OPTIONAL^.%vPNO~1!N~,7,~%&sCOMPAT~60S~M+k^,&4M~A)Y~81I~1)K~1)Gn~%(T~'.G~R+_~Q+Y~<*A~G+O~E&+~V1<~516~&%=~)1>~03t~|0C~9%5~e6G~&&L~7&J~G6C~G+&~|1_~9%6~0mD~-_7~,.v",
    "~%Nt~F;|0~+xq^6)]V~J/S~*:&~6!Z~.-8~A!R~:.n^2%=.~6!i~2.Y~I!a~,.6~7%+~-!E~=39~C+I~M3;~M+7~E2B~2X'~6_%^.%!8^.%hK3,5~3R2macro^(%Ne1(^'%'L) _Pragma (#~(!6~?!c~*!b~&&",
    "S~4%. (GCC^))tN~*%(~6TM~/%.sg)~0jO#^>&%w^3%z+~&v[\\`\t^:%*rc_generic^',<7ions~(!W~,/R^4*j,~/MC\\`\t^)%bn^H*PPHAVE_GENERIC_SELE^&)H7^3)pO~7!N0~<Sk10~(Sl`^1%!(^'&",
    ":<^6%*5~&!?__ x^(%ZC^'&%Z^6%p1^/&%.^5&tY(a, o, s~=%>~%!I~&W]^4&&3~F%(^*&<q~(!<)~,aG~3Xd11~'_+ ~6'L_none(argno~>&9~%WNe__, ~&!Q~9&E~7%,~+%|~1gW~>&|~;)b~8!>~.%I~;",
    "*t1~6Xf^()Z:(~'!+~(&t~*M/^7%Ga ~0!V^2%8y^-)[C~/!7~,f+free~6d_~<%u~=%=~ApZ~%%=~4[(^(%*Otwic^6%<W~/!F~>[|~/!Q^>(ye^5&C(~&2]^A)tdSYS~'1.^,)qm~,!9^L,15^++x&~/!=~(%_",
    "~8!Y/sigset_~<!Gtim^')*k#^?+ptval~&!K^3'Qk^Q+qZ~+[bs^=(bV~+!B s^.(bX~))c~4!i~*+I~(!s^+&ZRfd_mask;^,&E8NFDBITS^,%nE~'!6\t(8 * (int)^)-2u~)!k^*&!I\t__FD_ELT(d)\t(",
    "(d) /~*!k~/!JMASK~&!K~*!p (1UL << ~%!c%~+!c~%6n^.--C`  @^5(v?~'0[~'%! fds_bits[~%%GSETSIZE~,%l]~-'uFDS_BITS(set) (~%!*->~(!l~(.6~.%2__~i%4~*!n~)3t  $ fd_set;^+(",
    "c8~*%2\t\t~,%A^5&S/~**x~*'9~**'~(%g~()l~+*2^2(d_~&%9(fd, fdsetp)~)%O ~,!9~,!UCLR~2!UCLR~9!UIS~5%3~%!:~9!YZERO(~(!T~&!UZERO ~(!7^3*!G~02<~%'[^,+hL^-'5il~%w:~&-on",
    "fds,~'(n^/&_;readfd^((OU~5!Gwrite~?!H^&&Ae~*!I~'l2~'1f~/!Qtimeout^T+TD~&&S^7(eW ~M&n~7!i~A')~N![~+'<~8!]~F'P~9!f^(,cj^6(]i~'*/~*!I^I+O5`^2'%v~7+>p~X+?~F+A~G+B^.",
    ",Kz~(8K~6'u~.!W__~(:W~/!Rsig~%5q^U&urp~|,&~|,&~D,&~N(3~>!l~B(F~;,qp~-,r^2(VS~),up~+,v^7%0k^L&fq^)%3[~4Bi^P+LD~6EAta^C-Y1~%E)TAT^0&fG~&!7~;E;^L-Y&^U,8A^U)/4~7%4~",
    "*E|~,1]dev~5D[~%!; ~%!)~.hh~.!U^4)*)^w)0V^|-]Z^Y-]Z~,%n^K,D6~*%%~/!X~4%&nlink~5%'~'!= ~'!+~.%)~0![^|)3T^p)3T^w)6F~5:n^))B_~)%=blkcnt~T'3~(!_ ~(!,~4'9~&!?~%'<~.!",
    "K~1'?~3%X~2'Cblk^9)=4~)!? ~)!-;~0%1~/!d^2,eq^<-ji^*,FB^P)2z~'%R^|,Fs^|,Fs^/'6(^d,Fs^G';i^*%:c~+ju^O,G&~2NO~%!ISTYPE(mode, ~%<I^,-_b~((i^&&R<~'Tx~)!gS_ISDIR~&!R\t",
    " ~+!v~&!6, ~))7)~-!YCH~C!YCH~/!YBLK~B!YBLK~.!YREG~B!YREG)~*0A~*)m~*('SFIFO~B!oIFO)^1&wj~**.~+!vLN~C&GLNK)^M)1o~A%: ~/p&^>'Gx~8=0)^4)d;~++C~+%JSOC~(%K~9&dSOC~%&e",
    "^D)T<~/!z^1*lU^7+ip~*!fTYPEISMQ(buf~&%f~-!5~2!OSEM~0!P~(!6~3!QH~2!Q~'!6~,&%~,+wUID ^+,Qc~+!=^0,Qb^Q,Qa~+'[^/,Q_~(*,~*%<^0,Q[~*!=^1,QZ~*!>^1,QY~+!w^H,QX^:,w!~'!a",
    "~(%p~-!<~%!p~(%p~-!=EXEC~(%n~5&g^4,Rl~+&l^4,Rk~+&p^5,Rj~-&u^3,Ri~+!D^4,Rh~+%N^4,Rg~+%N^5,Rf~-%N^1,Re^5'zp~)'Y^&,K%PERMS ~(&2|~'!h~'!+O~+,mALL~*!PSUID|~'+x|~'+1|",
    "~C!kDEFFILEMODE ~((]|~'(E|~''B|~''*|~''[|~''D^.,UVBLK~%gD512^-%ug~9B;~-cft^2(0S~+Rnfil^&'r9~'T)~%!S^1(/')^L(eLf~&%B^*'=7~/%)~9!v2^4,;6~0]%^T'_*st^3,;Y~3'*\t\t ~",
    "?'-^*-55sta~%Et^&,KW^('JC~2'C~;%jf~'%k~='Q^+)7,f~A%D^9-W!tat~0&.~,!D~&)0~0%0`^:+7R~|(N~=(N~%!<~|(>~(%2f~9%3~=(.~&!Z~2(%f~*!<~5]/^9)I%~Gh0~&%-~E/f~-(0^1-q<~B/j~0",
    "/g^.'[:~1%*~?/k~a+!64~I+&~C&s^*,W2~l/U^/,XS~5'B~*%F~a/X64~B/Z~%!G~;/]~:V+^*)Y<^J'qmstat^H(CZ~++r~>0(^I(?e^*)>o~/+1~36|~R+N~'&V,~N&W~&&Y~?&Z~*!L~+&f~/*K~,*M ^J-]",
    "u~((e~2!l^.'?*^9-dJ~|'<~d'<~)&J~T'3~)!c`^>-wV~:4|~F5!~)%6~R-:~B2<~R->~e)c~.2]~*(r ~J)p~C&Q~,!P~G-7~33d~D*,~*3F~:->~83R ~VVK^A)Zp~+(Tl~IHM~_HN~z3X~%&6^7(10~4*D~B",
    "06~%Y?l~I;*~5)v~&'z~0!m~k33~x&pl~BF,~;&gls~B2g~e2fl~MDh~BAq^D'uR ^3,w2~3(]~MC]~LC_~M+W^8%+:^-(E.mod^8(8G^.,iu^A(J+^5'z9~,)(~n%;^;(?u^=(!n~.3W~-9_~'%p^,(5G^1,lx^",
    "<'u!^7)R]mod^E)R]~-%:~):fi^Z*!c^+(bd~'%*umask (~,%:ask^9)8u^-(IC~)!Yget~'!o^8(rf~+'%mk^7(du~c+2^5*(s~%%<^C*+2~K%I^/)IZ^Y(Kz~-%vn~2-.~5%j,^)%1&~%!+~C'G ~D'Hn~>+e",
    "~6%Y~'+e~.%b~=SN~:1Kmkfifo~|*<~3&pfifo~|*=~6%Q~;Y/~-%nutimens~B%o^6.+C^)%?/^&%>|s[2]^..5s^D(zw~bXV~)&;~'H*~8&:^7%A!~0!!~C&Z~H!p~%%]~%&z~=!W__~)&<^I--F~*)1~-!d~H",
    "Ws^8*(j~-*M~,6v~'%2~2*K~:'M~-5Y~Z)Z~(%J~1)Y~;%I~?(?~(!z^9-?=~(&l~,!O~H(,^&*8[^2%4Ux^9%FM^L%FNtime^;+4'^&%iP~%)C^/%ig~&!7^T%FJ^j%hx^|%h/^4-_m^,+ji^+%kh^2+5'~.)2~",
    "*%0TIMEVAL_TO~%'aSPEC(tv, ts) @~D0%\\`\t(ts)->tv_sec = (tv~)!2; ~P!jn~/!kusec * 1000~<!s\\`$~.&OSPEC~(&PVAL~S&Ov~.&Os~T&O~,&>~+!k~%&b/~G&O~+Gd~1I,~+0Ezone^).|5i",
    "nt tz_minuteswest;~,!;dsttime;^&.w8^2&,/~COKge~%!iofday^)&QP^7%_lv~&M:^4(G?z^=)(<^C*C?~43y~,%n,~D%o~E)L~&!!~6&=~?4a~,%b^G-=P~-(/~0!h~>4r^.-]X~4?I^1)':~+)G~17M~'",
    "'Y~()B~1!Dzone~%!Ez^5*,S~+%8adjti^*)&*~2%3delta~/V.~+!Cold^1(aP~[wc~.*N~<&v~K*I~<'E~?*Os~.*O;`~<&8~''u,~B'v~F&1~;(=~?&0~'%X~8=A~-+1~0&b~,!M~(*F~+!y~=YInum __iti",
    "mer_which~%3-~%&(ITIMER_REAL^'/2B~'%4~,!<~+!/~-!ZVIRTU~%!_1~1!_~(!?~.!2`~-!gPROF = 2~0!c~%!;~+!/^(//q~(5M~&&Gval~*&D~/(mit^)*6v;~8!Evalu~(5d~3S1^'.Nz^5&wP^*%|8~",
    "3(0~/!2~%>4^-%V8~&,'~2!H^0&+Z~=N;get~&!i (~0!s _~&!-~1t9~)'c *^'*:Y^:)fKs~M%/~-.3~-%5~+64new~>%e~+!Pol^;)h=~%Gms^<)|.~/)p__tvp[2]~CTV~[:,~&&F,~<'V~F1>~<),~C9|~&",
    "!Y~B3Js~p&+~K*(~]'(~/*H~C6[~H'1~&*|^6-Xf`~R'%~1+I~EU3s~J?+~'.p~-)m^-&'4~*!Fs~5!F~'-m~*%I~c?g~,nQ~|.u^/)?gf~(%6~;Vu~-%,~h?Fl~e*R~b*Sl~;*T~CY)s,~K'V~FY'~9Y&~(*/~+",
    "&-~2YFs~,!o~OYD~;HL~2*O~BsF~:fu~u*p~)%f^A-n7~ZfG~T)Fat~>aK~&eV~+!Q~;D_~4Sy~)Vm~%1kisset(tvp)\t(~%!*~)V8|| ~*!4usec)~/!bclear~5!b=~/!a =^-'8H~&!emp(a, b, CMP) ^0",
    ")(2(((a~+!x= (b~)!2~'!R~*!Q ? ~)!S~%%?CMP~)!Uu~5!V: ~-%0~,!Usec)~0&)add~'&)^'/?O~0&+do @~&!7^0)+!~'!U~,'E~+%I+~,%G;~<!cu~.!du~.!eu~3!fif (~2!j>=~%Zq000)^3),W~2&",
    "A\t++~0&?^/)-<\t~2%4-~)%4;~3%4$~3'R$^()-D~1*Vsub~z(P-~a(P-~T(P< 0)~'&'~.'9--~?(7~&!+~2!y+~;(<~B(:^b&7&~'l;^D&7'TYPE^1(yL~'!8^m/o;\t~6?hu_char~3m.~&!< ~&!*;~-!<^",
    "&)ZL~'!+~.!>~%LA_in~/!:long ~&!*~,!<quad_t ~&!*~.!V~'!>~(!,~,!Afs^&*+Ms^3&/a~.&J~(6,~*!cl^'+-A^(&1N~1Qu^0&5H^U&6o^A&6n~(7y^8&6l^*'!;~.U?^k/rI~,%G^?.T7^H&<(~)!y~",
    ".!T~2!w^H&<%~)!wg^5.U3^|.ZC^U&:,~)%&~0!Z~2%'^H&86~*,P~?&|^|.]C^T.]C^|.]B~.%G^|.]B~1!w^6)gS^;.Wc^4,h>~7%_~%%]~1%[~?)k^s+Uj~<6Idadd^6+LB~'!= ~'!+~,4vc~'!>~'!+~.4x",
    "~0!y^5'];^J%=H^0'c*key~5&)~%!; ~%!)~-'<~.!T^Y&M-^8&N<clock^'%,/~(-I~8!Kid^;%,Y^?%,|~&akt^D0/7^|+Tq^(%Qo^d%.C^?%.D~0*W~(?i^C,Au^;&m:^))BJ^)&sIu~.>1^3)xVu~/?0^-)C",
    "9u~%?4^,&X'^/%4wdint-int^&/-m~-64nt8_~'?|8~/?I^&.|U~'!A16~2!B32~(!B32~2!B~%4-~%!B~&4/`^8,w)~-pfregiste^&)aG^1'(cod~%!.__word__)^*%*X~6!k;^5)%yBIT~'F+DEFINED__^(",
    ")C]^2&1v~)'we^*/1]~,!:^.%4a~,U;^S.l?~45X^T&M?~)&h~2!c^F&1t^<&Pr^A&PQ~,%L^6&Ox~+%-fs~;%/~*!A ~*!.~.%3~3!g~5%5fil~:%5~(!A ~*!.~0%5~1!g^2.[,~I'X^2&Sc~v'Z~%%3~|']~,",
    "!A~'%7~T'a~3fy~+BP~<'_~&1+~?&s~2!I~3&,~'C-^-&ju^6%a8506^9)b+~0:w^')X&~)R[~cU%ucontext^B%FWUCONTEX^1'3G~*!;^l%Fb^,'3*~6!Eta~(=x^=&GF__ctx(fld) fld^2'7=~)!B^'(wal",
    "d~2*i~&'___``^/,?l^-'1x~):Ugreg_^,',t __NGREG\t23~<&&~&!H~'!P~**c~(%4~&%&~%!*~%'C[~'!N]^5+'penum`@`  REG_R8^/0AX~&!8\t\t~&!+~(!J9~0!F9~'!F9~(!F1~1!l10~&!G10~)!H",
    "1~1!H1~'!H1~)!H2~1!H2~'!H2~)!H3~1!H3~'!H3~)!H4~1!H4~'!H4~)!H5~1!H5~'!H5~(!HDI~0!HDI~&!HDI~(!HS~1!HS~'!HS~)!HBP~0!HBP~&!HBP~)!HX~1!HX~'!HX~)%c~1!HD~'!HD~)!HA~1!H",
    "A~'!HA~)!HC~1!HC~'!HC~)!HS~1&/S~'&/S~)&/I~1!HI~'!HI~(!HEFL~/!HEFL\t~'!+~'!HCSGSFS~/!K~&!8\t~*!.~(!xRR~0!xRR~&!xRR~'!HTRAPNO~/!K~&!8\t~*!.~'!QOLDMASK~/!R~'!9\t~+",
    "!/~(&)R2~/&%R~&,(CR2`^+%L.~'vw_^&)0!pxreg~%.V~3Ga~&1Psignificand)[4];~<!Pexponent)~9!J^&'Tvreserved1[3]^&-&i~-%jxmm~(%j~*GS\t~'%2lement~&%[~1!afpstate`@`~)!c16_",
    "t\t~'!dcwd~%%n~2!=s~9!=ftw~8!=op~+!=64~*!=ri~9!=d~,!=~%&T~'!=mxcsr~:!?r^&%tO;`^)%4'~,)C\t_st[8]~1!B~&'u\t_xmm[16]~2%-~0(g2~((*^10Lk~,(3 *fp~(5m;^6'Cx   ~*69~'*K",
    "~%!3)^'%BU~*!i~(8pp~'!C^&%&F~,8O~.P'~%!(_~*&0 ~%&y$ m~'<a~4%g ~(=&_~*%r~2Q)~&%Yuc^)*%Z ^*%8G~*!h *uc_link~(!D~%;x uc_~%!.~&!9~*%_ uc_~(!1~'!V~'<w~%!W^&'0r~-%:~.",
    "(?__~&'B_mem~H'E~&&Hssp~'/8$~+&9^)%?S`~-P)~:<L19~|<L~?<LGS~3<LGS~&<)G~(4_~151F~'!F~*5*~0!FE~'!FE~(!FD~0!FD~'!FD~)!k~1:cE~':cE~):cE~1:cE~':cE~):cE~1:cE~':cE~):cE",
    "~18|E~'8|E~)8|E~1;/E~';/E~);/E~1;/E~';/E~);/E~1:cE~':cE~):cE~1;TE~';TE~);T~N8r~E9oE~1;_E~';_E~);_C~2;4~&)6CS~L<*U~2(DU~((EU~*(FSS~.!HS~&<ISS~,:I~07x~|:I~<97~:2f",
    "cw~.;.~/!Cs~>!Ctag~=!Dipoff~=!Fcssel~=!Fdata~A!mdata~(!o~2(B ~*9H~9&g^&+K[~|9%~,9%~D9&~8%xold~)<2~;(%r2~%!F~|9:~|9:~a9:~4&4~;9'~'S'^((K<ctx~MW&wai^G'F+WAI^1'F+~",
    "&!7^f%2%~x|5~3i=^E*]P~,jcign^''io~I%'^:+8Z^9'GQ~&*A_rusage~1kx~*!uSTDLIB_H^0.W>^D*=V^'(?,~.%Nwait~%-7~1m]~)!C~&1&^./_oWEXITSTATUS~(1G\t__~+!9 ~(!:~+!XTERMSIG~,!",
    "U~'!6~4!RSTOP~/!R~'!6~4!RIFEXITED~,!S~(!7~6!TSIGNAL~0!V~(!9~7!XTOPP~1!W~&!8~,!V~(C:WIFCONTINU^&.1/~*!q~)!:~.!s~)!:~,!u~4h_\t~4EFWCOREFLAG\t\t__~)!0~/!DDUMP~,%E~",
    "(!7~4&q_EXITCODE(ret, sig~%!W~)!: ~*!;~,!ZSTOP~%!Z~)!U~(!5 ~%!6^<&K_~U/*~+-|i~%iN_~.us^.&IV~&1!wa^(+dL*^&&oz_loc^1-%a^/'-;~%2yANY\t(-^,'|;~%!:MYPGRP\t^5)Vn~7%Pp",
    "^3+Z5~/%e^)/Cd^&-Oj);~d']~(4G^E%1v^8%1w^+&iT~6kLinfo~(k,~1')in~&'%id (~().~%%2^&,P)~'%T__id~%+1~&!s *__info^(0v7~0'=^?'?G^)(?T^Y*eh~*FB~&52^(+'<^C'%A~,)t3~1+J~/",
    ")c^1%r6~&%= * __~%!-^-+MU^>%[6NL~0%S~0!D (~%%h,~C%i^9%ZH~0!!~8&2~D!j__~%%a_^<&&J~&'p~.!N^H%cF^I%k.~,)/4~P/&~9)>~|)=ait4,~B%w~K)=~.&I~8&A~J)L4~B)L4~/!N~:)L~5|,"]

end CInspect.Includes
